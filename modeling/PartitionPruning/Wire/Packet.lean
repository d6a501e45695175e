import PartitionPruning.Wire.Block

/-
  The packets that carry parameter values.

  Key definitions include:
    * `Packet.executeParam`
    * `Packet.prepareExecuteParam`
    * `Packet.longData`
-/

namespace PartitionPruning

namespace Packet

open Wire

/-
  Bytes before the parameters: the statement in four, flags
  in one, and an iteration count in four.
-/
def headerSize : Nat :=
  9

/-
  Parameter `index` of an execute packet for a statement of
  `count` parameters.  The declared types stand in where the
  packet brings none.
-/
def executeParam
    (count : Nat)
    (declared : List ParamType)
    (payload : List UInt8)
    (index : Nat) : Except WireError Value :=
  if count ≤ index then .error (.indexOutOfRange index count)
  else do
    let (_, block) ← take .executeHeader headerSize payload
    Block.param count declared index block

/-
  Pass over a query and read the number of parameters after
  it, which has four bytes.
-/
def paramCount
    (bs : List UInt8) :
    Except WireError (Nat × List UInt8) := do
  let (size, rest) ← encodedLength bs
  if Block.greatestSize < size + 4 then
    .error (.truncated .prepareExecuteQuery
      Block.greatestSize rest.length)
  else do
    let (front, rest) ←
      take .prepareExecuteQuery (size + 4) rest
    .ok (LittleEndian.value (front.drop size), rest)

/-
  Parameter `index` of a packet that prepares and executes a
  statement at once: the header, the query, the number of
  parameters and their block.
-/
def prepareExecuteParam
    (declared : List ParamType)
    (payload : List UInt8)
    (index : Nat) : Except WireError Value := do
  let (_, rest) ←
    take .prepareExecuteHeader headerSize payload
  let (count, block) ← paramCount rest
  if count ≤ index then .error (.indexOutOfRange index count)
  else Block.param count declared index block

/-
  The parameter that a long-data packet carries and its
  bytes, which run to the end of the packet.
-/
def longData
    (payload : List UInt8) :
    Except WireError (Nat × List UInt8) := do
  let (header, body) ← take .longDataHeader 6 payload
  .ok (LittleEndian.value (header.drop 4), body)

end Packet

end PartitionPruning
