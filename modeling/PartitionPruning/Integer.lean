/-
  Signed integers of 64 bits as parts of the integers.

  Arithmetic is done on `Int`, where nothing overflows, and
  `Integer.narrow?` says whether its result is a 64-bit
  integer again.

  Key definitions include:
    * `Integer.InRange`
    * `Integer.narrow?`

  Main facts:
    * `Integer.inRange_iff`
    * `Integer.narrow?_eq_some_iff`
-/

namespace PartitionPruning

namespace Integer

/- The values of a signed integer of 64 bits. -/
def InRange
    (i : Int) : Prop :=
  Int64.minValue.toInt ≤ i ∧ i ≤ Int64.maxValue.toInt

instance
    (i : Int) :
    Decidable (InRange i) := by
  unfold InRange
  infer_instance

/- The 64-bit integer with a given value, if there is one. -/
def narrow?
    (i : Int) : Option Int64 :=
  if InRange i then some (Int64.ofInt i) else none

theorem inRange_toInt
    (v : Int64) :
    InRange v.toInt :=
  ⟨v.minValue_le_toInt, v.toInt_le⟩

/-
  The least and the greatest number of 64 bits with a
  sign.
-/
theorem inRange_iff
    {i : Int} :
    InRange i ↔
      -9223372036854775808 ≤ i ∧ i ≤ 9223372036854775807 := by
  unfold InRange
  rw [Int64.toInt_minValue, Int64.toInt_maxValue]
  omega

/- A number of 64 bits is narrowed to itself. -/
@[simp]
theorem narrow?_toInt
    (v : Int64) :
    narrow? v.toInt = some v := by
  simp [narrow?, inRange_toInt]

/- Narrowing keeps the value and succeeds whenever it can. -/
theorem narrow?_eq_some_iff
    {i : Int}
    {v : Int64} :
    narrow? i = some v ↔ v.toInt = i := by
  constructor
  · intro h
    unfold narrow? at h
    split at h
    · next hRange =>
        cases h
        exact
          Int64.toInt_ofInt_of_le hRange.1
            (Int.lt_add_one_of_le hRange.2)
    · cases h
  · intro h
    subst h
    exact narrow?_toInt v

/- Narrowing gives the number of 64 bits that is meant. -/
theorem narrow?_of_inRange
    {i : Int}
    (h : InRange i) :
    ∃ v : Int64, v.toInt = i ∧ narrow? i = some v := by
  have hNarrow : narrow? i = some (Int64.ofInt i) := if_pos h
  exact ⟨_, narrow?_eq_some_iff.mp hNarrow, hNarrow⟩

end Integer

end PartitionPruning
