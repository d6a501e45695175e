import PartitionPruning.Proofs.Range.Order
import PartitionPruning.Proofs.Schema.Slice

/-
  Which comparisons carry over to a slice.

  A bound on a generated column keeps the comparator of the
  predicate on the source.  This loses no source where the
  slice respects the order of byte strings.  For equalities,
  and for slices that are leading or blank, it loses some
  source with every other operand.  For a slice that starts
  at a later byte, each order comparison loses some source
  with some operand, though not with every one.

  Key definitions include:
    * `Slice.IsLeading`
    * `Slice.IsBlank`
    * `Slice.Carries`

  Main facts:
    * `Slice.orders_of_carries`
    * `Slice.exists_lost`
    * `Slice.exists_lost_of_inner`
-/

namespace PartitionPruning

namespace Slice

open PartitionPruning.Derivation (Inside)

variable {s : Slice}
variable {x v : List UInt8}

------------------------------------------------------------
-- Kinds Of Slices
------------------------------------------------------------

/- The slice starts at the first byte of every text. -/
def IsLeading
    (s : Slice) : Prop :=
  s.start = 1 ∨ s.start = 0 ∧ s.dialect = .oracle

/- The slice of every text is empty. -/
def IsBlank
    (s : Slice) : Prop :=
  s.start = 0 ∧ s.dialect = .mysql ∨
    ∃ n ∈ s.length?, n.toInt ≤ 0

/-
  A leading slice starts at the first byte in texts of any
  size.
-/
theorem IsLeading.position
    (h : s.IsLeading)
    (size : Nat) :
    s.position size = 1 := by
  rcases h with hOne | ⟨hZero, hOracle⟩
  · simp [Slice.position, hOne, Dialect.position]
  · simp [Slice.position, hZero, hOracle, Dialect.position]

/- A leading slice with room for a byte is not blank. -/
theorem IsLeading.not_isBlank
    (h : s.IsLeading)
    (hLong : ∀ n ∈ s.length?, 0 < n.toInt) :
    ¬ s.IsBlank := by
  rintro (⟨hZero, hMysql⟩ | ⟨n, hLength, hShort⟩)
  · rcases h with hOne | ⟨_, hOracle⟩
    · rw [hOne] at hZero
      exact absurd hZero (by decide)
    · rw [hOracle] at hMysql
      cases hMysql
  · have hLess := hLong n hLength
    omega

/- Blank slices aside, lengths are positive. -/
theorem one_le_of_not_isBlank
    (h : ¬ s.IsBlank)
    {n : Int64}
    (hLength : n ∈ s.length?) :
    1 ≤ n.toInt := by
  apply Decidable.byContradiction
  intro hShort
  exact h (Or.inr ⟨n, hLength, by omega⟩)

/- Every text but the empty one has a first byte. -/
theorem inside_one
    (h : x ≠ []) :
    Inside x.length 1 := by
  have hLength := List.length_pos_iff.mpr h
  unfold Inside
  omega

theorem not_inside_nil
    (i : Int) :
    ¬ Inside ([] : List UInt8).length i := by
  rintro ⟨hFirst, hLast⟩
  simp only [List.length_nil] at hLast
  omega

/- A text has no slice that starts outside of it. -/
theorem value_of_not_inside
    (h : ¬ Inside x.length (s.position x.length)) :
    s.value x = [] :=
  if_neg h

/- An operand without a slice is compared as it is. -/
theorem bound_of_not_inside
    (h : ¬ Inside v.length (s.position v.length)) :
    s.bound v = v := by
  apply if_neg
  intro hFits
  exact h hFits.1

/- A slice that starts inside, but does not fit, is too long. -/
theorem length_le_of_not_fits
    (hInside : Inside v.length (s.position v.length))
    (hLong : ∀ n ∈ s.length?, 1 ≤ n.toInt)
    (h : ¬ s.Fits v.length) :
    ∀ n ∈ s.length?, (v.length : Int) ≤ n.toInt := by
  intro n hLength
  apply Decidable.byContradiction
  intro hShort
  apply h
  refine ⟨hInside, ?_⟩
  intro m hm
  rw [Option.mem_unique hm hLength]
  exact
    ⟨hLong n hLength, Int.le_of_lt (Int.not_le.mp hShort)⟩

@[simp]
theorem value_nil
    (s : Slice) :
    s.value [] = [] :=
  value_of_not_inside (not_inside_nil _)

@[simp]
theorem bound_nil
    (s : Slice) :
    s.bound [] = [] :=
  bound_of_not_inside (not_inside_nil _)

/- A leading slice is a prefix of every text. -/
theorem IsLeading.value
    (h : s.IsLeading)
    (x : List UInt8) :
    s.value x = s.shorten x := by
  by_cases hNil : x = []
  · subst hNil
    rw [value_nil]
    exact (List.le_nil.mp (s.shorten_le [])).symm
  · unfold Slice.value
    rw [h.position, if_pos (inside_one hNil)]
    rfl

/-
  A leading slice makes its operand a prefix, also where
  the operand is too short for it.
-/
theorem IsLeading.bound
    (h : s.IsLeading)
    (hBlank : ¬ s.IsBlank)
    (v : List UInt8) :
    s.bound v = s.shorten v := by
  by_cases hFits : s.Fits v.length
  · rw [Slice.bound, if_pos hFits]
    exact h.value v
  · by_cases hNil : v = []
    · subst hNil
      rw [bound_nil]
      exact (List.le_nil.mp (s.shorten_le [])).symm
    · have hInside :
          Inside v.length (s.position v.length) := by
        rw [h.position]
        exact inside_one hNil
      rw [Slice.bound, if_neg hFits]
      symm
      apply shorten_eq_self
      apply length_le_of_not_fits hInside ?_ hFits
      intro n hLength
      exact one_le_of_not_isBlank hBlank hLength

/- A blank slice is empty for every text. -/
theorem IsBlank.value
    (h : s.IsBlank)
    (x : List UInt8) :
    s.value x = [] := by
  rcases h with ⟨hZero, hMysql⟩ | ⟨n, hLength, hShort⟩
  · apply value_of_not_inside
    simp [Slice.position, hZero, hMysql, Dialect.position,
      Inside]
  · have hNone : n.toInt.toNat = 0 := by omega
    unfold Slice.value shorten
    rw [Option.mem_def.mp hLength]
    simp [hNone]

/- A blank slice fits no operand, which is then kept. -/
theorem IsBlank.bound
    (h : s.IsBlank)
    (v : List UInt8) :
    s.bound v = v := by
  apply if_neg
  rintro ⟨hInside, hLengths⟩
  rcases h with ⟨hZero, hMysql⟩ | ⟨n, hLength, hShort⟩
  · simp [Slice.position, hZero, hMysql, Dialect.position,
      Inside] at hInside
  · have hLong := (hLengths n hLength).1
    omega

------------------------------------------------------------
-- Operands That Are Carried
------------------------------------------------------------

/-
  A comparison of the source with an operand holds for the
  column and its bound as well.  For an equality the slice
  is taken in the same way from both.  Otherwise the slice
  is a prefix, or empty, and a strict comparison needs room
  for the whole operand in it.
-/
def Carries
    (s : Slice)
    (op : Comparator)
    (v : List UInt8) : Prop :=
  match op with
  | .eq =>
      v = [] ∨
        Inside v.length (s.position v.length) ∧
          ∀ n ∈ s.length?,
            1 ≤ n.toInt ∧
              (n.toInt ≤ v.length ∨
                s.position v.length = 1)
  | .ge => v = [] ∨ s.IsLeading ∧ ¬ s.IsBlank
  | .gt =>
      s.IsLeading ∧
        ∀ n ∈ s.length?, (v.length : Int) < n.toInt
  | .le => v = [] ∨ s.IsLeading ∨ s.IsBlank
  | .lt =>
      v = [] ∨ s.IsBlank ∨
        s.IsLeading ∧
          ∀ n ∈ s.length?, (v.length : Int) ≤ n.toInt
  | .other => True

/- A text that is cut like its bound is carried. -/
theorem carries_eq_of_value_eq_bound
    (hEq : s.value v = s.bound v) :
    s.Carries .eq v := by
  by_cases hNil : v = []
  · exact Or.inl hNil
  · have hInside :
        Inside v.length (s.position v.length) := by
      apply Decidable.byContradiction
      intro hOutside
      rw [value_of_not_inside hOutside,
        bound_of_not_inside hOutside] at hEq
      exact hNil hEq.symm
    have hBlank : ¬ s.IsBlank := by
      intro hBlank
      rw [hBlank.value, hBlank.bound] at hEq
      exact hNil hEq.symm
    refine Or.inr ⟨hInside, ?_⟩
    intro n hLength
    refine ⟨one_le_of_not_isBlank hBlank hLength, ?_⟩
    by_cases hFits : s.Fits v.length
    · exact Or.inl (hFits.2 n hLength).2
    · -- The operand is kept whole, so nothing is cut off.
      right
      rw [Slice.bound, if_neg hFits, Slice.value,
        if_pos hInside] at hEq
      have hSame := congrArg List.length hEq
      have hLess :=
        s.length_shorten_le
          (v.drop (s.position v.length - 1).toNat)
      rw [hSame, List.length_drop] at hLess
      unfold Inside at hInside
      omega

/- The operand of an equality is cut as the source is. -/
theorem value_eq_bound_iff :
    s.value v = s.bound v ↔ s.Carries .eq v := by
  constructor
  · exact carries_eq_of_value_eq_bound
  · rintro (rfl | ⟨hInside, hLengths⟩)
    · simp
    · by_cases hFits : s.Fits v.length
      · rw [Slice.bound, if_pos hFits]
      · by_cases hFirst : s.position v.length = 1
        · rw [Slice.bound, if_neg hFits, Slice.value,
            if_pos hInside, hFirst]
          apply shorten_eq_self
          apply length_le_of_not_fits hInside ?_ hFits
          intro n hLength
          exact (hLengths n hLength).1
        · exfalso
          apply hFits
          refine ⟨hInside, ?_⟩
          intro n hLength
          rcases hLengths n hLength with ⟨hLong, hLess⟩
          exact ⟨hLong, hLess.resolve_right hFirst⟩

/- The comparison carries over to the column. -/
theorem orders_of_carries
    {op : Comparator}
    (h : s.Carries op v)
    (hOrders : op.Orders x v) :
    op.Orders (s.value x) (s.bound v) := by
  cases op with
  | eq =>
      cases hOrders
      exact value_eq_bound_iff.mpr h
  | ge =>
      rcases h with rfl | ⟨hLeading, hBlank⟩
      · rw [bound_nil]
        exact List.nil_le _
      · rw [hLeading.value, hLeading.bound hBlank]
        exact s.shorten_le_shorten hOrders
  | gt =>
      rcases h with ⟨hLeading, hShort⟩
      have hBlank : ¬ s.IsBlank := by
        apply hLeading.not_isBlank
        intro n hLength
        have hLess := hShort n hLength
        omega
      have hWhole : s.shorten v = v := by
        apply shorten_eq_self
        intro n hLength
        exact Int.le_of_lt (hShort n hLength)
      rw [hLeading.value, hLeading.bound hBlank, hWhole]
      exact lt_shorten hOrders hShort
  | le =>
      by_cases hBlank : s.IsBlank
      · rw [hBlank.value]
        exact List.nil_le _
      · rcases h with rfl | hLeading | hBlank'
        · rw [List.le_nil.mp hOrders]
          simp [Comparator.Orders]
        · rw [hLeading.value, hLeading.bound hBlank]
          exact s.shorten_le_shorten hOrders
        · exact absurd hBlank' hBlank
  | lt =>
      have hNil : v ≠ [] := by
        rintro rfl
        exact List.not_lt_nil x hOrders
      by_cases hBlank : s.IsBlank
      · rw [hBlank.value, hBlank.bound]
        exact Prefix.nil_lt hNil
      · rcases h with hEmpty | hBlank' | ⟨hLeading, hShort⟩
        · exact absurd hEmpty hNil
        · exact absurd hBlank' hBlank
        · rw [hLeading.value, hLeading.bound hBlank,
            shorten_eq_self hShort]
          exact List.lt_of_le_of_lt (s.shorten_le x) hOrders
  | other => trivial

------------------------------------------------------------
-- Operands That Are Not
------------------------------------------------------------

/-
  What does not hold for all lengths fails for the one
  that is there.
-/
theorem exists_length_of_not
    {P : Int64 → Prop}
    (h : ¬ ∀ n ∈ s.length?, P n) :
    ∃ n ∈ s.length?, ¬ P n := by
  simp only [Classical.not_forall] at h
  rcases h with ⟨n, hLength, hNot⟩
  exact ⟨n, hLength, hNot⟩

/-
  Of prefixes and blank slices, and in equalities, every
  operand that is not carried loses some source.
-/
theorem exists_lost
    {op : Comparator}
    (h : ¬ s.Carries op v)
    (hKind : s.IsLeading ∨ s.IsBlank ∨ op = .eq) :
    ∃ x,
      op.Orders x v ∧
        ¬ op.Orders (s.value x) (s.bound v) := by
  cases op with
  | eq =>
      refine ⟨v, rfl, ?_⟩
      intro hEq
      exact h (carries_eq_of_value_eq_bound hEq)
  | ge =>
      by_cases hBlank : s.IsBlank
      · refine ⟨v, List.le_refl v, ?_⟩
        rw [hBlank.value, hBlank.bound]
        intro hLe
        exact h (Or.inl (List.le_nil.mp hLe))
      · rcases hKind with hLeading | hBlank' | hOp
        · exact absurd (Or.inr ⟨hLeading, hBlank⟩) h
        · exact absurd hBlank' hBlank
        · cases hOp
  | gt =>
      refine ⟨v ++ [0], Prefix.lt_append_singleton v 0, ?_⟩
      by_cases hBlank : s.IsBlank
      · rw [hBlank.value]
        exact List.not_lt_nil _
      · rcases hKind with hLeading | hBlank' | hOp
        · have hRoom :
              ¬ ∀ n ∈ s.length?,
                (v.length : Int) < n.toInt := by
            intro hAll
            exact h ⟨hLeading, hAll⟩
          rcases exists_length_of_not hRoom with
            ⟨n, hLength, hLong⟩
          rw [hLeading.value, hLeading.bound hBlank,
            shorten_append hLength (Int.not_lt.mp hLong)]
          exact List.lt_irrefl _
        · exact absurd hBlank' hBlank
        · cases hOp
  | le =>
      rcases hKind with hLeading | hBlank | hOp
      · exact absurd (Or.inr (Or.inl hLeading)) h
      · exact absurd (Or.inr (Or.inr hBlank)) h
      · cases hOp
  | lt =>
      rcases hKind with hLeading | hBlank | hOp
      · have hBlank : ¬ s.IsBlank := by
          intro hBlank
          exact h (Or.inr (Or.inl hBlank))
        have hRoom :
            ¬ ∀ n ∈ s.length?,
              (v.length : Int) ≤ n.toInt := by
          intro hAll
          exact h (Or.inr (Or.inr ⟨hLeading, hAll⟩))
        rcases exists_length_of_not hRoom with
          ⟨n, hLength, hLong⟩
        have hLess : n.toInt.toNat < v.length := by
          have hPositive := one_le_of_not_isBlank hBlank hLength
          omega
        refine ⟨s.shorten v, shorten_lt hLength hLess, ?_⟩
        rw [hLeading.value, hLeading.bound hBlank,
          shorten_shorten]
        exact List.lt_irrefl _
      · exact absurd (Or.inr (Or.inl hBlank)) h
      · cases hOp
  | other => exact absurd trivial h

/- A slice that is not blank keeps the first byte. -/
theorem exists_shorten_cons
    (h : ¬ s.IsBlank)
    (b : UInt8)
    (x : List UInt8) :
    ∃ rest, s.shorten (b :: x) = b :: rest := by
  unfold shorten
  split
  · exact ⟨x, rfl⟩
  · next n hLength =>
      have hLong := one_le_of_not_isBlank h hLength
      rcases Nat.exists_eq_succ_of_ne_zero
          (show n.toInt.toNat ≠ 0 by omega) with
        ⟨k, hk⟩
      exact ⟨x.take k, by rw [hk, List.take_succ_cons]⟩

theorem position_of_start_pos
    (h : 0 < s.start.toInt)
    (size : Nat) :
    s.position size = s.start.toInt := by
  have hNeg : ¬ s.start.toInt < 0 := by omega
  have hZero : s.start.toInt ≠ 0 := by omega
  simp [position, Dialect.position, hNeg, hZero]

/-
  A slice that starts at a later byte is a prefix of what
  begins there.
-/
theorem value_of_position
    {k : Nat}
    (h : s.position x.length = k + 1)
    (hLength : k < x.length) :
    s.value x = s.shorten (x.drop k) := by
  unfold value
  rw [h, if_pos ⟨by omega, by omega⟩]
  congr
  omega

/- Counted from the end, bytes in front are left out. -/
theorem value_of_start_neg
    {k before : Nat}
    (hStart : s.start.toInt = -(k + 1 : Nat))
    (hLength : x.length = before + (k + 1)) :
    s.value x = s.shorten (x.drop before) := by
  have hNeg : s.start.toInt < 0 := by omega
  have hPlace : s.start.toInt + x.length + 1 = before + 1 := by
    omega
  have hZero : (before + 1 : Int) ≠ 0 := by omega
  apply value_of_position
  · simp only [position, Dialect.position, if_pos hNeg,
      hPlace, hZero, false_and, if_false]
  · omega

/-
  A source below an operand, and one above it, whose slices
  are the other way around.
-/
def Turns
    (s : Slice) : Prop :=
  ∃ v below above,
    below < v ∧ v < above ∧
      s.value above < s.bound v ∧ s.bound v < s.value below

/-
  Counted from the end, the slice is the whole of an operand
  of as many bytes, up to its length, while it leaves out
  the first byte of a source with one byte more.
-/
theorem turns_of_start_neg
    (hBlank : ¬ s.IsBlank)
    (hNeg : s.start.toInt < 0) :
    s.Turns := by
  have hBack : ∃ k : Nat, s.start.toInt = -(k + 1 : Nat) :=
    ⟨(-s.start.toInt).toNat - 1, by omega⟩
  rcases hBack with ⟨k, hStart⟩
  have hLonger :
      ∀ a b : UInt8,
        ∃ rest,
          s.value (a :: b :: List.replicate k 0) =
            b :: rest := by
    intro a b
    have hLength :
        (a :: b :: List.replicate k 0).length =
          1 + (k + 1) := by
      simp
      omega
    rw [value_of_start_neg hStart hLength]
    exact exists_shorten_cons hBlank b _
  have hKept :
      ∃ rest,
        s.bound (1 :: List.replicate k 0) = 1 :: rest := by
    unfold bound
    split
    · have hLength :
          ((1 : UInt8) :: List.replicate k 0).length =
            0 + (k + 1) := by
        simp
      rw [value_of_start_neg hStart hLength]
      exact exists_shorten_cons hBlank 1 _
    · exact ⟨List.replicate k 0, rfl⟩
  rcases hLonger 2 0 with ⟨restAbove, hAbove⟩
  rcases hLonger 0 2 with ⟨restBelow, hBelow⟩
  rcases hKept with ⟨rest, hBound⟩
  refine
    ⟨1 :: List.replicate k 0,
      0 :: 2 :: List.replicate k 0,
      2 :: 0 :: List.replicate k 0, ?_⟩
  rw [hAbove, hBelow, hBound]
  exact
    ⟨Prefix.cons_lt_cons (by decide) _ _,
      Prefix.cons_lt_cons (by decide) _ _,
      Prefix.cons_lt_cons (by decide) _ _,
      Prefix.cons_lt_cons (by decide) _ _⟩

/-
  From a later byte on, the slice is empty for a source of
  one byte, while an operand of one byte is kept.
-/
theorem turns_of_one_lt_start
    (hBlank : ¬ s.IsBlank)
    (hLater : 1 < s.start.toInt) :
    s.Turns := by
  have hFront : ∃ k : Nat, s.start.toInt = (k + 1 : Nat) + 1 :=
    ⟨(s.start.toInt - 2).toNat, by omega⟩
  rcases hFront with ⟨k, hStart⟩
  have hOutside :
      ∀ b : UInt8, ¬ Inside [b].length (s.position 1) := by
    intro b hInside
    rw [position_of_start_pos (by omega)] at hInside
    have hLast := hInside.2
    simp only [List.length_singleton] at hLast
    omega
  rcases exists_shorten_cons hBlank 2 [] with ⟨rest, hRest⟩
  have hBelow :
      s.value (0 :: (List.replicate k 0 ++ [2])) = 2 :: rest := by
    rw [value_of_position (k := k + 1)]
    · simpa using hRest
    · rw [position_of_start_pos (by omega)]
      exact hStart
    · simp
  refine ⟨[1], 0 :: (List.replicate k 0 ++ [2]), [2], ?_⟩
  rw [hBelow, value_of_not_inside (hOutside 2),
    bound_of_not_inside (hOutside 1)]
  exact
    ⟨Prefix.cons_lt_cons (by decide) _ _,
      Prefix.cons_lt_cons (by decide) _ _,
      List.nil_lt_cons 1 [],
      Prefix.cons_lt_cons (by decide) _ _⟩

/-
  A slice from a later byte on turns some order around,
  whether it is counted from the start or from the end.
-/
theorem turns_of_inner
    (hLeading : ¬ s.IsLeading)
    (hBlank : ¬ s.IsBlank) :
    s.Turns := by
  by_cases hNeg : s.start.toInt < 0
  · exact turns_of_start_neg hBlank hNeg
  · apply turns_of_one_lt_start hBlank
    have hZero : s.start.toInt ≠ 0 := by
      intro hZero
      have hStart : s.start = 0 := Int64.toInt_inj.mp hZero
      cases hDialect : s.dialect with
      | mysql => exact hBlank (Or.inl ⟨hStart, hDialect⟩)
      | oracle => exact hLeading (Or.inr ⟨hStart, hDialect⟩)
    have hOne : s.start.toInt ≠ 1 := by
      intro hOne
      exact hLeading (Or.inl (Int64.toInt_inj.mp hOne))
    omega

/-
  Slices that start at a later byte lose sources of some
  operand, whatever the order comparison.
-/
theorem exists_lost_of_inner
    {op : Comparator}
    (hLeading : ¬ s.IsLeading)
    (hBlank : ¬ s.IsBlank)
    (hEq : op ≠ .eq)
    (hOther : op ≠ .other) :
    ∃ v x,
      op.Orders x v ∧
        ¬ op.Orders (s.value x) (s.bound v) := by
  rcases turns_of_inner hLeading hBlank with
    ⟨v, below, above, hBelow, hAbove, hFirst, hSecond⟩
  cases op with
  | eq => exact absurd rfl hEq
  | ge =>
      exact
        ⟨v, above, List.le_of_lt hAbove,
          List.not_le.mpr hFirst⟩
  | gt =>
      exact ⟨v, above, hAbove, List.lt_asymm hFirst⟩
  | le =>
      exact
        ⟨v, below, List.le_of_lt hBelow,
          List.not_le.mpr hSecond⟩
  | lt =>
      exact ⟨v, below, hBelow, List.lt_asymm hSecond⟩
  | other => exact absurd rfl hOther

end Slice

end PartitionPruning
