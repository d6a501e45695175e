import PartitionPruning.Proofs.Wire.PrepareExecute
import PartitionPruning.Statement.Binding

/-
  What placeholders are bound to.

  A packet that prepares and executes at once is read like
  an execute packet without the query.  This is so for any
  block of parameters, also one that is cut off or that has
  no meaning.

  Key definitions include:
    * `Packet.withQuery`

  Main declarations:
    * `Binding.prepareExecuteParam_eq_executeParam`
-/

namespace PartitionPruning

open LittleEndian (span)

------------------------------------------------------------
-- Packets With A Query
------------------------------------------------------------

/-
  A query and a number of parameters between a header and
  what should be the block of the parameters.
-/
def Packet.withQuery
    (header query : List UInt8)
    (count : Nat)
    (block : List UInt8) : List UInt8 :=
  header ++
    (Wire.writeLength query.length ++
      (query ++ (LittleEndian.encode 4 count ++ block)))

namespace Binding

/-
  A parameter, or the error, is that of the execute packet
  with the same header and block, whatever the query is.
-/
theorem prepareExecuteParam_eq_executeParam
    (prepared? : Option StatementEntry)
    {header query block : List UInt8}
    {count : Nat}
    (i : Nat)
    (hHeader : header.length = Packet.headerSize)
    (hCount : count < span 4)
    (hSize :
      (Packet.withQuery header query count block).length ≤
        Block.greatestSize) :
    prepareExecuteParam prepared?
        (Packet.withQuery header query count block) i =
      ofPacket
        (Packet.executeParam count
          ((prepared?.map StatementEntry.paramTypes).getD [])
          (header ++ block) i) := by
  have hQuery : query.length + 4 ≤ Block.greatestSize := by
    simp only [Packet.withQuery, List.length_append,
      LittleEndian.length_encode] at hSize
    omega
  have hParam :
      prepareExecuteParam prepared?
          (Packet.withQuery header query count block) i =
        ofPacket
          (Packet.prepareExecuteParam
            ((prepared?.map StatementEntry.paramTypes).getD [])
            (Packet.withQuery header query count block) i) := by
    cases prepared? <;> rfl
  rw [hParam, Packet.withQuery,
    Packet.prepareExecuteParam_frame _ i hHeader hQuery hCount,
    Packet.executeParam_frame count _ i hHeader]

/- A packet with a query whose length takes three bytes. -/
def longPacket
    (block : List UInt8) : List UInt8 :=
  Packet.withQuery (List.replicate 9 0)
    (List.replicate 70000 0x20) 1 block

/- A number of four bytes, whole and without the last. -/
theorem prepareExecuteParam_longPacket :
    prepareExecuteParam none
        (longPacket [0, 1, 3, 0, 42, 0, 0, 0]) 0 =
      .ok (.int 42) ∧
      prepareExecuteParam none
          (longPacket [0, 1, 3, 0, 42, 0, 0]) 0 =
        .error (.packet (.truncated .longValue 4 3)) := by
  have hSize
      {block : List UInt8}
      (hBlock : block.length ≤ 8) :
      (longPacket block).length ≤ Block.greatestSize := by
    have hWidth : (Wire.writeLength 70000).length = 4 := rfl
    have hGreatest : 70025 ≤ Block.greatestSize := by decide
    simp only [longPacket, Packet.withQuery,
      List.length_append, List.length_replicate,
      LittleEndian.length_encode, hWidth]
    omega
  constructor
  · rw [longPacket,
      prepareExecuteParam_eq_executeParam none 0 rfl (by decide)
        (hSize (by decide))]
    rfl
  · rw [longPacket,
      prepareExecuteParam_eq_executeParam none 0 rfl (by decide)
        (hSize (by decide))]
    rfl

end Binding

end PartitionPruning
