import PartitionPruning.Predicate
import PartitionPruning.Value

/-
  Orders of values, and what comparators say in them.

  A table lookup orders the values of a column in some way.
  All that ranges rely on is that the order is total and
  does not tell apart values that are the same bound.

  Key definitions include:
    * `Value.IsUnder`
    * `Value.IsOrder`
    * `Value.bytewise`
    * `Comparator.Holds`
    * `Comparator.Orders`

  Main facts:
    * `Value.isUnder_withCollation`
    * `Value.isOrder_bytewise`
    * `Comparator.holds_text_iff`
-/

namespace PartitionPruning

namespace Value

------------------------------------------------------------
-- Collations Of Values
------------------------------------------------------------

/- A string among values carries the collation. -/
def IsUnder
    (c : Collation)
    (v : Value) : Prop :=
  v.withCollation c = v

instance
    (c : Collation)
    (v : Value) :
    Decidable (v.IsUnder c) := by
  unfold IsUnder
  infer_instance

/- A value that is given a collation has no other. -/
@[simp]
theorem isUnder_withCollation
    (c : Collation)
    (v : Value) :
    (v.withCollation c).IsUnder c :=
  withCollation_withCollation c c v

/- Whether a value is the same as `null` is never decided. -/
theorem ne_null_of_sameBound?
    {a b : Value}
    {answer : Bool}
    (h : a.sameBound? b = some answer) :
    a ≠ null ∧ b ≠ null := by
  constructor
  · rintro rfl
    simp at h
  · rintro rfl
    simp at h

------------------------------------------------------------
-- Orders
------------------------------------------------------------

/-
  A total preorder of values.  Values under the collation
  that are the same bound are equivalent in it.
-/
structure IsOrder
    (c : Collation)
    (le : Value → Value → Prop) : Prop where
  total : ∀ a b, le a b ∨ le b a
  trans : ∀ {a b d}, le a b → le b d → le a d
  equivalent_of_sameBound? :
    ∀ {a b}, a.IsUnder c → b.IsUnder c →
      a.sameBound? b = some true → le a b ∧ le b a

/- The place of a value's kind among the kinds. -/
def rank : Value → Nat
  | least => 0
  | null => 1
  | int _ => 2
  | text _ _ => 3
  | greatest => 4

/-
  The order of kinds, and within them of integers by size
  and of strings byte by byte.
-/
def bytewise : Value → Value → Prop
  | int a, int b => a.toInt ≤ b.toInt
  | text a _, text b _ => a ≤ b
  | a, b => a.rank ≤ b.rank

instance : DecidableRel bytewise := by
  intro a b
  unfold bytewise
  split <;> infer_instance

theorem bytewise_total
    (a b : Value) :
    bytewise a b ∨ bytewise b a := by
  cases a <;> cases b <;> simp only [bytewise, rank]
  case text.text a _ b _ => exact List.le_total a b
  all_goals omega

/-
  The order by bytes is transitive across the kinds of
  values too.
-/
theorem bytewise_trans
    {a b d : Value}
    (hab : bytewise a b)
    (hbd : bytewise b d) :
    bytewise a d := by
  cases a <;> cases b <;> cases d <;>
    simp only [bytewise, rank] at hab hbd ⊢
  case text.text.text => exact List.le_trans hab hbd
  all_goals omega

/-
  Where case matters, strings that are the same bound are
  the same bytes.
-/
theorem isOrder_bytewise
    {c : Collation}
    (hCase : c.isCaseInsensitive = false) :
    IsOrder c bytewise where
  total := bytewise_total
  trans := bytewise_trans
  equivalent_of_sameBound? := by
    intro a b hA hB hSame
    cases a with
    | null => simp at hSame
    | int a =>
        cases b with
        | int b =>
            rw [sameBound?_int, Option.some.injEq,
              decide_eq_true_eq] at hSame
            subst hSame
            exact ⟨Int.le_refl _, Int.le_refl _⟩
        | _ => cases hSame
    | text a ca =>
        cases b with
        | text b cb =>
            have hCa : c = ca := by
              simpa [IsUnder, withCollation] using hA
            have hCb : c = cb := by
              simpa [IsUnder, withCollation] using hB
            subst hCa
            subst hCb
            rw [sameBound?_text, hCase] at hSame
            have hBytes : a = b := by simpa using hSame
            subst hBytes
            exact ⟨List.le_refl _, List.le_refl _⟩
        | _ => cases hSame
    | least =>
        cases b with
        | least => exact ⟨Nat.le_refl _, Nat.le_refl _⟩
        | _ => cases hSame
    | greatest =>
        cases b with
        | greatest => exact ⟨Nat.le_refl _, Nat.le_refl _⟩
        | _ => cases hSame

end Value

------------------------------------------------------------
-- Comparators
------------------------------------------------------------

/-
  A comparison of a column's value with an operand's value.
  Other comparators say nothing that a range could use.
-/
def Comparator.Holds
    (le : Value → Value → Prop)
    (op : Comparator)
    (x v : Value) : Prop :=
  match op with
  | .eq => le x v ∧ le v x
  | .ge => le v x
  | .gt => le v x ∧ ¬ le x v
  | .le => le x v
  | .lt => le x v ∧ ¬ le v x
  | .other => True

instance
    (le : Value → Value → Prop)
    [DecidableRel le]
    (op : Comparator)
    (x v : Value) :
    Decidable (op.Holds le x v) := by
  unfold Comparator.Holds
  split <;> infer_instance

------------------------------------------------------------
-- Comparing Byte Strings
------------------------------------------------------------

/- A comparison of byte strings. -/
def Comparator.Orders
    (op : Comparator)
    (x v : List UInt8) : Prop :=
  match op with
  | .eq => x = v
  | .ge => v ≤ x
  | .gt => v < x
  | .le => x ≤ v
  | .lt => x < v
  | .other => True

/-
  On strings the order by bytes is the order of their
  bytes, whatever their collations.
-/
theorem Comparator.holds_text_iff
    (op : Comparator)
    (x v : List UInt8)
    (c d : Collation) :
    op.Holds Value.bytewise (.text x c) (.text v d) ↔
      op.Orders x v := by
  cases op with
  | eq =>
      constructor
      · rintro ⟨hLe, hGe⟩
        exact List.le_antisymm hLe hGe
      · rintro rfl
        exact ⟨List.le_refl x, List.le_refl x⟩
  | ge => exact Iff.rfl
  | gt =>
      constructor
      · rintro ⟨_, hNot⟩
        exact List.not_le.mp hNot
      · intro hLess
        exact ⟨List.le_of_lt hLess, List.not_le.mpr hLess⟩
  | le => exact Iff.rfl
  | lt =>
      constructor
      · rintro ⟨_, hNot⟩
        exact List.not_le.mp hNot
      · intro hLess
        exact ⟨List.le_of_lt hLess, List.not_le.mpr hLess⟩
  | other => exact Iff.rfl

end PartitionPruning
