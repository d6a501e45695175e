/-
  Inclusive ranges of code points, the form in which
  character properties are tabulated.

  Key definitions include:
    * `CodeRange`
    * `CodeRange.Mem`
    * `CodeRange.holds`
-/

namespace PartitionPruning

/- A first and a last code point. -/
abbrev CodeRange :=
  Nat × Nat

namespace CodeRange

/- A character lies in a range. -/
def Mem
    (r : CodeRange)
    (c : Char) : Prop :=
  r.1 ≤ c.toNat ∧ c.toNat ≤ r.2

instance
    (r : CodeRange)
    (c : Char) :
    Decidable (Mem r c) := by
  unfold Mem
  infer_instance

/- Some range of a table holds the character. -/
def holds
    (table : Array CodeRange)
    (c : Char) : Bool :=
  table.any fun r => decide (Mem r c)

end CodeRange

end PartitionPruning
