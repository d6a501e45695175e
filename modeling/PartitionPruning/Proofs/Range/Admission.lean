import PartitionPruning.Proofs.Range.Order
import PartitionPruning.Proofs.Statement.Drafting

/-
  The rows that ranges admit.

  Writing to a draft a comparison that a row satisfies keeps
  the row within the draft's bounds, and cutting the draft
  back keeps it within the range.

  Key definitions include:
    * `Bound.Admits`
    * `KeyRange.Admits`
    * `KeyRange.IsUnder`
    * `Draft.Admits`

  Main facts:
    * `Draft.Admits.write`
    * `Draft.Admits.normalise`
-/

namespace PartitionPruning

variable {le : Value → Value → Prop}
variable {c : Collation}

------------------------------------------------------------
-- One Column
------------------------------------------------------------

namespace Bound

/-
  A value lies between the ends of a bound, and apart from
  an end that does not belong to it.  An end that is `null`
  bounds nothing.
-/
def Admits
    (le : Value → Value → Prop)
    (b : Bound)
    (m : Border)
    (x : Value) : Prop :=
  (b.lower ≠ .null →
    le b.lower x ∧ (m.lower = false → ¬ le x b.lower)) ∧
  (b.upper ≠ .null →
    le x b.upper ∧ (m.upper = false → ¬ le b.upper x))

/- A column that nothing bounds admits every value. -/
@[simp]
theorem admits_unset
    (m : Border)
    (x : Value) :
    unset.Admits le m x := by
  simp [Admits, unset]

/-
  A border that was closed earlier stays closed, which can
  only let in more values.
-/
theorem Admits.set
    {b : Bound}
    {m : Border}
    {x v : Value}
    {op : Comparator}
    (h : b.Admits le m x)
    (hHolds : v ≠ .null → op.Holds le x v) :
    (b.set op v).Admits le (m.close op) x := by
  rcases h with ⟨hLower, hUpper⟩
  cases op with
  | eq =>
      constructor
      · intro hNull
        exact ⟨(hHolds hNull).2, by
          simp [Border.close, Comparator.closesBelow]⟩
      · intro hNull
        exact ⟨(hHolds hNull).1, by
          simp [Border.close, Comparator.closesAbove]⟩
  | ge =>
      constructor
      · intro hNull
        exact ⟨hHolds hNull, by
          simp [Border.close, Comparator.closesBelow]⟩
      · simpa [Bound.set, Border.close,
          Comparator.boundsAbove, Comparator.closesAbove]
          using hUpper
  | gt =>
      constructor
      · intro hNull
        exact ⟨(hHolds hNull).1, fun _ => (hHolds hNull).2⟩
      · simpa [Bound.set, Border.close,
          Comparator.boundsAbove, Comparator.closesAbove]
          using hUpper
  | le =>
      constructor
      · simpa [Bound.set, Border.close,
          Comparator.boundsBelow, Comparator.closesBelow]
          using hLower
      · intro hNull
        exact ⟨hHolds hNull, by
          simp [Border.close, Comparator.closesAbove]⟩
  | lt =>
      constructor
      · simpa [Bound.set, Border.close,
          Comparator.boundsBelow, Comparator.closesBelow]
          using hLower
      · intro hNull
        exact ⟨(hHolds hNull).1, fun _ => (hHolds hNull).2⟩
  | other => simpa using ⟨hLower, hUpper⟩

/- Both ends of a bound carry the collation. -/
structure IsUnder
    (c : Collation)
    (b : Bound) : Prop where
  lower : b.lower.IsUnder c
  upper : b.upper.IsUnder c

theorem isUnder_unset
    (c : Collation) :
    unset.IsUnder c :=
  ⟨rfl, rfl⟩

/- A bound that is set has the collation of its value. -/
theorem IsUnder.set
    {b : Bound}
    {v : Value}
    (h : b.IsUnder c)
    (hValue : v.IsUnder c)
    (op : Comparator) :
    (b.set op v).IsUnder c := by
  constructor
  · by_cases hBelow : op.boundsBelow
    · simpa [Bound.set, hBelow] using hValue
    · simpa [Bound.set, hBelow] using h.lower
  · by_cases hAbove : op.boundsAbove
    · simpa [Bound.set, hAbove] using hValue
    · simpa [Bound.set, hAbove] using h.upper

/-
  Where both ends are the same bound, a value between them
  is equivalent to either.
-/
theorem Admits.of_isExact
    {b : Bound}
    {m : Border}
    {x : Value}
    (h : b.Admits le m x)
    (hOrder : Value.IsOrder c le)
    (hUnder : b.IsUnder c)
    (hExact : b.isExact = true) :
    le b.lower x ∧ le x b.lower := by
  have hSame : b.lower.sameBound? b.upper = some true :=
    of_decide_eq_true hExact
  have hNull := Value.ne_null_of_sameBound? hSame
  have hEnds :=
    hOrder.equivalent_of_sameBound? hUnder.lower hUnder.upper
      hSame
  exact
    ⟨(h.1 hNull.1).1,
      hOrder.trans (h.2 hNull.2).1 hEnds.2⟩

end Bound

------------------------------------------------------------
-- Ranges
------------------------------------------------------------

namespace KeyRange

/-
  A row has the exact values of the columns before the first
  that is not exact.  There it lies within the bound and the
  border of the range.  The columns after that one are
  unused.
-/
def AdmitsColumns
    (le : Value → Value → Prop)
    (border : Border) :
    List Bound → List Value → Prop
  | [], [] => True
  | b :: bounds, x :: row =>
      if b.isExact then
        (le b.lower x ∧ le x b.lower) ∧
          AdmitsColumns le border bounds row
      else
        b.Admits le border x ∧
          bounds.length = row.length ∧
          ∀ u ∈ bounds, u = Bound.unused
  | [], _ :: _ => False
  | _ :: _, [] => False

/- A range admits the row of values of its columns. -/
def Admits
    (le : Value → Value → Prop)
    (r : KeyRange)
    (row : List Value) : Prop :=
  AdmitsColumns le r.border r.bounds row

end KeyRange

------------------------------------------------------------
-- Drafts
------------------------------------------------------------

/- All strings of a range carry the collation. -/
def KeyRange.IsUnder
    (c : Collation)
    (r : KeyRange) : Prop :=
  ∀ b ∈ r.bounds, b.IsUnder c

namespace Draft

/- An untouched range holds no strings at all. -/
theorem isUnder_untouched
    (count : Nat) :
    (untouched count).range.IsUnder c := by
  intro b hMember
  rw [(List.mem_replicate.mp hMember).2]
  exact Bound.isUnder_unset c

/- A value under the collation may be written anywhere. -/
theorem isUnder_write
    {d : Draft}
    {v : Value}
    (h : d.range.IsUnder c)
    (hValue : v.IsUnder c)
    (op : Comparator)
    (index : Nat) :
    (d.write op index v).range.IsUnder c := by
  intro b hMember
  rcases List.mem_iff_getElem?.mp hMember with ⟨i, hBound⟩
  rw [getElem?_bounds_write] at hBound
  split at hBound
  · rcases Option.map_eq_some_iff.mp hBound with
      ⟨old, hOld, rfl⟩
    exact (h old (List.mem_of_getElem? hOld)).set hValue op
  · exact h b (List.mem_of_getElem? hBound)

/-
  A row lies within the bounds of a draft, column by column
  and each with the column's own border.
-/
structure Admits
    (c : Collation)
    (le : Value → Value → Prop)
    (d : Draft)
    (row : List Value) : Prop where
  columns : d.HasColumns row.length
  isUnder :
    ∀ {i : Nat} {b : Bound},
      d.range.bounds[i]? = some b → b.IsUnder c
  within :
    ∀ {i : Nat} {b : Bound} {m : Border} {x : Value},
      d.range.bounds[i]? = some b →
        d.borders[i]? = some m →
          row[i]? = some x → b.Admits le m x

/- Nothing is bounded at first. -/
theorem admits_untouched
    (row : List Value) :
    (untouched row.length).Admits c le row where
  columns := hasColumns_untouched row.length
  isUnder := by
    intro i b hBound
    exact
      isUnder_untouched row.length b
        (List.mem_of_getElem? hBound)
  within := by
    intro i b m x hBound _ _
    rw [(List.mem_replicate.mp
      (List.mem_of_getElem? hBound)).2]
    exact Bound.admits_unset m x

/-
  The invariant of a run: a comparison that the row satisfies
  keeps it within the draft.
-/
theorem Admits.write
    {d : Draft}
    {row : List Value}
    {op : Comparator}
    {index : Nat}
    {v : Value}
    (h : d.Admits c le row)
    (hUnder : v.IsUnder c)
    (hHolds :
      ∀ x, row[index]? = some x →
        v ≠ .null → op.Holds le x v) :
    (d.write op index v).Admits c le row where
  columns := h.columns.write op index v
  isUnder := by
    intro i b hBound
    have hRange : d.range.IsUnder c := by
      intro old hMember
      rcases List.mem_iff_getElem?.mp hMember with ⟨j, hOld⟩
      exact h.isUnder hOld
    exact
      isUnder_write hRange hUnder op index b
        (List.mem_of_getElem? hBound)
  within := by
    intro i b m x hBound hBorder hRow
    rw [getElem?_bounds_write] at hBound
    rw [getElem?_borders_write] at hBorder
    by_cases hIndex : index = i
    · rw [if_pos hIndex] at hBound hBorder
      rcases Option.map_eq_some_iff.mp hBound with
        ⟨old, hOld, rfl⟩
      rcases Option.map_eq_some_iff.mp hBorder with
        ⟨oldBorder, hOldBorder, rfl⟩
      subst hIndex
      exact (h.within hOld hOldBorder hRow).set (hHolds x hRow)
    · rw [if_neg hIndex] at hBound hBorder
      exact h.within hBound hBorder hRow

/-
  A column that is cut off bounds no row, and one that is
  kept bounds the rows that it bounded before.
-/
theorem admits_cut
    (hOrder : Value.IsOrder c le)
    (border : Border)
    {bounds : List Bound}
    {borders : List Border}
    {row : List Value}
    (hBounds : bounds.length = row.length)
    (hBorders : borders.length = row.length)
    (hUnder :
      ∀ {i : Nat} {b : Bound},
        bounds[i]? = some b → b.IsUnder c)
    (hWithin :
      ∀ {i : Nat} {b : Bound} {m : Border} {x : Value},
        bounds[i]? = some b → borders[i]? = some m →
          row[i]? = some x → b.Admits le m x) :
    (cut border bounds borders).Admits le row := by
  induction bounds generalizing border borders row with
  | nil =>
      have hRow : row = [] :=
        List.eq_nil_of_length_eq_zero hBounds.symm
      subst hRow
      simp [cut, KeyRange.Admits, KeyRange.AdmitsColumns]
  | cons b bounds ih =>
      cases row with
      | nil => cases hBounds
      | cons x row =>
          cases borders with
          | nil => cases hBorders
          | cons m borders =>
              have hHead : b.Admits le m x :=
                hWithin (i := 0) rfl rfl rfl
              by_cases hExact : b.isExact
              · have hTail :
                    (cut m bounds borders).Admits le row :=
                  ih m (Nat.succ.inj hBounds)
                    (Nat.succ.inj hBorders)
                    (fun {i} {_} h => hUnder (i := i + 1) h)
                    (fun {i} {_} {_} {_} hb hm hx =>
                      hWithin (i := i + 1) hb hm hx)
                have hEnds :=
                  hHead.of_isExact hOrder
                    (hUnder (i := 0) rfl) hExact
                unfold KeyRange.Admits
                simp only [cut, hExact, if_true,
                  KeyRange.AdmitsColumns]
                exact ⟨hEnds, hTail⟩
              · unfold KeyRange.Admits
                simp only [cut, hExact, Bool.false_eq_true,
                  if_false, KeyRange.AdmitsColumns]
                refine ⟨hHead, ?_, ?_⟩
                · simpa using Nat.succ.inj hBounds
                · intro u hUnused
                  rcases List.mem_map.mp hUnused with
                    ⟨_, _, hEq⟩
                  exact hEq.symm

/-
  A row that a draft admits is admitted by what is left
  when the draft is cut back.
-/
theorem Admits.normalise
    {d : Draft}
    {row : List Value}
    (h : d.Admits c le row)
    (hOrder : Value.IsOrder c le) :
    d.normalise.Admits le row :=
  admits_cut hOrder d.range.border h.columns.bounds
    h.columns.borders h.isUnder h.within

end Draft

end PartitionPruning
