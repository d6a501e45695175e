import PartitionPruning.Proofs.Wire.RoundTrip

/-
  Packets that prepare and execute a statement at once.

  Such a packet has a query and the number of parameters
  where an execute packet has nothing, and the block of
  parameters after them.

  Key definitions include:
    * `ExecutePacket.block`
    * `PrepareExecutePacket`

  Main declarations:
    * `Packet.executeParam_frame`
    * `Packet.prepareExecuteParam_frame`
    * `PrepareExecutePacket.prepareExecuteParam_encode`
-/

namespace PartitionPruning

open LittleEndian (span)

------------------------------------------------------------
-- Packets
------------------------------------------------------------

namespace ExecutePacket

/- The bytes of the packet after its header. -/
def block
    (p : ExecutePacket) : List UInt8 :=
  Block.bitmap (p.args.map Argument.isNull) ++
    (p.typeBytes ++ (p.values ++ p.trailing))

theorem encode_eq
    (p : ExecutePacket) :
    p.encode = p.header ++ p.block :=
  rfl

end ExecutePacket

/-
  A query before the parameters of an execute packet.  Their
  number is written in four bytes.
-/
structure PrepareExecutePacket extends ExecutePacket where
  query : List UInt8
  length_args : args.length < span 4

/- The bytes of the packet. -/
def PrepareExecutePacket.encode
    (p : PrepareExecutePacket) : List UInt8 :=
  p.header ++
    (Wire.writeLength p.query.length ++
      (p.query ++
        (LittleEndian.encode 4 p.args.length ++ p.block)))

------------------------------------------------------------
-- Reading
------------------------------------------------------------

namespace Packet

variable {query block : List UInt8}
variable {count : Nat}

/- Passing over the query leaves the number and the block. -/
theorem paramCount_encode
    (hQuery : query.length + 4 ≤ Block.greatestSize)
    (hCount : count < span 4) :
    paramCount
        (Wire.writeLength query.length ++
          (query ++ (LittleEndian.encode 4 count ++ block))) =
      .ok (count, block) := by
  have hWidth : query.length < span 8 := by
    have hGreatest : Block.greatestSize < span 8 := by decide
    omega
  have hFront :
      (query ++ LittleEndian.encode 4 count).length =
        query.length + 4 := by
    rw [List.length_append, LittleEndian.length_encode]
  unfold paramCount
  rw [Wire.encodedLength_writeLength hWidth]
  simp only [Steps.ok_bind]
  rw [if_neg (Nat.not_lt.mpr hQuery), ← List.append_assoc,
    Wire.take_append .prepareExecuteQuery hFront]
  simp only [Steps.ok_bind]
  rw [List.drop_left, LittleEndian.value_encode_of_lt hCount]

/- A parameter of an execute packet is that of its block. -/
theorem executeParam_frame
    {header : List UInt8}
    (count : Nat)
    (declared : List ParamType)
    (i : Nat)
    (hHeader : header.length = headerSize) :
    executeParam count declared (header ++ block) i =
      if count ≤ i then .error (.indexOutOfRange i count)
      else Block.param count declared i block := by
  unfold executeParam
  rw [Wire.take_append .executeHeader hHeader]
  rfl

/-
  Whatever the query and the block are, a parameter is that
  of the block, if the number says that there is one.
-/
theorem prepareExecuteParam_frame
    {header : List UInt8}
    (declared : List ParamType)
    (i : Nat)
    (hHeader : header.length = headerSize)
    (hQuery : query.length + 4 ≤ Block.greatestSize)
    (hCount : count < span 4) :
    prepareExecuteParam declared
        (header ++
          (Wire.writeLength query.length ++
            (query ++
              (LittleEndian.encode 4 count ++ block)))) i =
      if count ≤ i then .error (.indexOutOfRange i count)
      else Block.param count declared i block := by
  unfold prepareExecuteParam
  rw [Wire.take_append .prepareExecuteHeader hHeader]
  simp only [Steps.ok_bind, paramCount_encode hQuery hCount]

end Packet

namespace PrepareExecutePacket

variable {p : PrepareExecutePacket}
variable {declared : List ParamType}
variable {i : Nat}

/-
  The query is passed over, and the count that follows it
  decides what is in range.
-/
theorem prepareExecuteParam_encode_eq
    (declared : List ParamType)
    (i : Nat)
    (hSize : p.encode.length ≤ Block.greatestSize) :
    Packet.prepareExecuteParam declared p.encode i =
      if p.args.length ≤ i then
        .error (.indexOutOfRange i p.args.length)
      else Block.param p.args.length declared i p.block := by
  apply Packet.prepareExecuteParam_frame declared i
    p.length_header _ p.length_args
  simp only [encode, List.length_append,
    LittleEndian.length_encode] at hSize
  omega

/- A packet reads back the argument of each parameter. -/
theorem prepareExecuteParam_encode
    {a : Argument}
    {v : Value}
    (hTypes : p.TypesKnown declared)
    (hSize : p.encode.length ≤ Block.greatestSize)
    (hArg : p.args[i]? = some a)
    (hValue : a.value? = some v) :
    Packet.prepareExecuteParam declared p.encode i =
      .ok v := by
  have hIndex : ¬ p.args.length ≤ i :=
    Nat.not_le.mpr (List.getElem?_eq_some_iff.mp hArg).1
  have hInner :
      p.toExecutePacket.encode.length ≤
        Block.greatestSize := by
    rw [ExecutePacket.encode_eq, List.length_append]
    simp only [encode, List.length_append] at hSize
    omega
  rw [prepareExecuteParam_encode_eq declared i hSize,
    if_neg hIndex]
  exact ExecutePacket.param_encode hTypes hInner hArg hValue

end PrepareExecutePacket

end PartitionPruning
