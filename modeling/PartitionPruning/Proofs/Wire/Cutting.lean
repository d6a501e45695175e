import PartitionPruning.Proofs.Wire.RoundTrip

/-
  Packets that are cut off.

  A parameter is read from the first bytes of a packet as
  soon as they reach the end of its value.  Wherever the
  packet is cut before that, in its header, in the bitmap,
  in the types, or in a value that is read or passed over,
  the answer is that something is cut off.

  Main declarations:
    * `Packet.executeParam_take`
-/

namespace PartitionPruning

open Wire (IsCut)

theorem ExecutePacket.encode_eq_upTo
    (p : ExecutePacket)
    (i : Nat) :
    p.encode =
      p.upTo i ++
        ((p.args.drop (i + 1)).flatMap Argument.encode ++
          p.trailing) := by
  unfold encode upTo
  rw [p.values_eq i]
  simp only [List.append_assoc]

namespace Packet

/-
  The first bytes of a packet give the value of a parameter
  if they reach the end of it, and are cut if they do not.
-/
theorem executeParam_take
    {p : ExecutePacket}
    {declared : List ParamType}
    {i : Nat}
    {a : Argument}
    {v : Value}
    (hTypes : p.TypesKnown declared)
    (hSize : p.encode.length ≤ Block.greatestSize)
    (hArg : p.args[i]? = some a)
    (hValue : a.value? = some v)
    (k : Nat) :
    ((p.upTo i).length ≤ k →
      executeParam p.args.length declared (p.encode.take k) i =
        .ok v) ∧
    (k < (p.upTo i).length →
      IsCut
        (executeParam p.args.length declared
          (p.encode.take k) i)) := by
  have hNeeds := needs_executeParam hTypes hSize hArg hValue
  rw [p.encode_eq_upTo i]
  constructor
  · intro hReached
    exact hNeeds.gives_take hReached _
  · intro hCut
    exact hNeeds.isCut_take hCut _

/-
  The small number after the nulls is there when the packet
  reaches its byte, and not when the packet ends within the
  length of the long text before it.
-/
theorem executeParam_take_bookingPacket :
    bookingPacket.TypesKnown [] ∧
      bookingPacket.encode.length ≤ Block.greatestSize ∧
      (∃ a, bookingPacket.args[8]? = some a ∧
        a.value? = some (.int (-3))) ∧
      (bookingPacket.upTo 8).length = 343 ∧
      executeParam bookingPacket.args.length []
          (bookingPacket.encode.take 343) 8 =
        .ok (.int (-3)) ∧
      IsCut
        (executeParam bookingPacket.args.length []
          (bookingPacket.encode.take 37) 8) := by
  have hTypes : bookingPacket.TypesKnown [] := trivial
  have hSize :
      bookingPacket.encode.length ≤ Block.greatestSize := by
    decide +kernel
  have hArg :
      ∃ a, bookingPacket.args[8]? = some a ∧
        a.value? = some (.int (-3)) :=
    ⟨_, rfl, rfl⟩
  have hReach : (bookingPacket.upTo 8).length = 343 := by
    decide +kernel
  refine ⟨hTypes, hSize, hArg, hReach, ?_⟩
  rcases hArg with ⟨a, hGet, hValue⟩
  constructor
  · exact
      (executeParam_take hTypes hSize hGet hValue 343).1
        (Nat.le_of_eq hReach)
  · exact
      (executeParam_take hTypes hSize hGet hValue 37).2
        (by rw [hReach]; decide)

end Packet

end PartitionPruning
