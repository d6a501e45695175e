import PartitionPruning.Proofs.Statement.Drafting

/-
  Ranges by the history of their columns.

  A draft depends on nothing but the comparisons that its
  columns went through.  Each end of a column has the value
  of the last comparison that bounds it, and belongs to the
  range once any comparison has closed it.

  Key definitions include:
    * `Comparison`
    * `Bound.after`
    * `Border.after`
    * `History`
    * `Draft.ofHistory`
    * `KeyRange.ofHistory`

  Main facts:
    * `Draft.write_ofHistory`
    * `Draft.normalise_ofHistory`
    * `KeyRange.divergence?_ofHistory`
-/

namespace PartitionPruning

------------------------------------------------------------
-- Ends Of A Column
------------------------------------------------------------

/- The start or the end of a range. -/
inductive Side where
  | lower
  | upper
deriving DecidableEq

/- A comparator bounds a column from a side. -/
def Comparator.bounds
    (op : Comparator) : Side → Bool
  | .lower => op.boundsBelow
  | .upper => op.boundsAbove

/- A comparator lets its operand belong to the range. -/
def Comparator.closes
    (op : Comparator) : Side → Bool
  | .lower => op.closesBelow
  | .upper => op.closesAbove

/- Only a comparator that bounds a side can close it. -/
theorem Comparator.bounds_of_closes
    {op : Comparator}
    {side : Side}
    (h : op.closes side = true) :
    op.bounds side = true := by
  cases op <;> cases side <;> first | rfl | cases h

/- Whether the end on a side belongs to the range. -/
def Border.includes
    (m : Border) : Side → Bool
  | .lower => m.lower
  | .upper => m.upper

------------------------------------------------------------
-- Comparisons Of A Column
------------------------------------------------------------

/- A comparison of a column with a value. -/
structure Comparison where
  op : Comparator
  value : Value
deriving DecidableEq

namespace Comparison

/- The last comparison that bounds the column from a side. -/
def last?
    (side : Side)
    (cs : List Comparison) : Option Comparison :=
  (cs.filter fun c => c.op.bounds side).getLast?

/- The value of that comparison, or `null` if there is none. -/
def lastValue
    (side : Side)
    (cs : List Comparison) : Value :=
  match last? side cs with
  | some c => c.value
  | none => .null

theorem last?_append_singleton
    (side : Side)
    (cs : List Comparison)
    (c : Comparison) :
    last? side (cs ++ [c]) =
      if c.op.bounds side then some c else last? side cs := by
  unfold last?
  cases hBounds : c.op.bounds side <;>
    simp [List.filter_append, hBounds]

theorem lastValue_append_singleton
    (side : Side)
    (cs : List Comparison)
    (c : Comparison) :
    lastValue side (cs ++ [c]) =
      if c.op.bounds side then c.value
      else lastValue side cs := by
  unfold lastValue
  rw [last?_append_singleton]
  cases c.op.bounds side <;> rfl

end Comparison

open Comparison (lastValue)

/- The bound of a column after comparisons. -/
def Bound.after
    (cs : List Comparison) : Bound :=
  ⟨lastValue .lower cs, lastValue .upper cs⟩

@[simp]
theorem Bound.after_nil :
    after [] = unset :=
  rfl

/- The last comparison is set over what the others left. -/
theorem Bound.after_append_singleton
    (cs : List Comparison)
    (c : Comparison) :
    after (cs ++ [c]) = (after cs).set c.op c.value := by
  unfold after
  rw [Comparison.lastValue_append_singleton,
    Comparison.lastValue_append_singleton]
  rfl

/- The border of a column after comparisons. -/
def Border.after
    (cs : List Comparison) : Border :=
  ⟨cs.any fun c => c.op.closesBelow,
    cs.any fun c => c.op.closesAbove⟩

@[simp]
theorem Border.after_nil :
    after [] = exclusive :=
  rfl

/- The last comparison may close the border further. -/
theorem Border.after_append_singleton
    (cs : List Comparison)
    (c : Comparison) :
    after (cs ++ [c]) = (after cs).close c.op := by
  simp [after, Border.close]

/-
  A side is closed once any comparison has closed it,
  since none opens it again.
-/
theorem Border.includes_after
    (cs : List Comparison)
    (side : Side) :
    (after cs).includes side =
      cs.any fun c => c.op.closes side := by
  cases side <;> rfl

------------------------------------------------------------
-- Histories
------------------------------------------------------------

/- The comparisons of each column, earlier ones first. -/
abbrev History : Type :=
  Nat → List Comparison

namespace History

/- The history without comparisons. -/
def empty : History :=
  fun _ => []

/- One more comparison of the column at an index. -/
def extend
    (h : History)
    (index : Nat)
    (c : Comparison) : History :=
  fun i => if index = i then h i ++ [c] else h i

/- The first of so many columns that is not exact. -/
def divergence?
    (h : History)
    (count : Nat) : Option Nat :=
  (List.range count).find? fun i =>
    !(Bound.after (h i)).isExact

/- The divergence is the first column that is not exact. -/
theorem divergence?_eq_some_iff
    {h : History}
    {count d : Nat} :
    h.divergence? count = some d ↔
      d < count ∧ (Bound.after (h d)).isExact = false ∧
        ∀ i < d, (Bound.after (h i)).isExact = true := by
  simp [divergence?, List.find?_range_eq_some,
    and_left_comm]

/- There is no divergence where every column is exact. -/
theorem divergence?_eq_none_iff
    {h : History}
    {count : Nat} :
    h.divergence? count = none ↔
      ∀ i < count, (Bound.after (h i)).isExact = true := by
  simp [divergence?]

/- The columns before an index are exact unless one diverges. -/
theorem all_range_isExact
    (h : History)
    {count i : Nat}
    (hIndex : i ≤ count) :
    ((List.range i).all fun j => (Bound.after (h j)).isExact) =
      !(h.divergence? count).any fun d => decide (d < i) := by
  cases hDivergence : h.divergence? count with
  | none =>
      have hExact := divergence?_eq_none_iff.mp hDivergence
      rw [Option.any_none, Bool.not_false, List.all_eq_true]
      intro j hj
      have hLess := List.mem_range.mp hj
      exact hExact j (Nat.lt_of_lt_of_le hLess hIndex)
  | some d =>
      rcases divergence?_eq_some_iff.mp hDivergence with
        ⟨_, hOpen, hBefore⟩
      rw [Option.any_some]
      by_cases hLess : d < i
      · rw [decide_eq_true hLess, Bool.not_true,
          List.all_eq_false]
        exact ⟨d, List.mem_range.mpr hLess, by simp [hOpen]⟩
      · rw [decide_eq_false hLess, Bool.not_false,
          List.all_eq_true]
        intro j hj
        have hBelow := List.mem_range.mp hj
        exact hBefore j (by omega)

end History

------------------------------------------------------------
-- Drafts By History
------------------------------------------------------------

/- Changing one item of a list made from indices. -/
theorem modify_map_range
    {α : Type}
    (f : Nat → α)
    (g : α → α)
    (count index : Nat) :
    ((List.range count).map f).modify index g =
      (List.range count).map fun i =>
        if index = i then g (f i) else f i := by
  apply List.ext_getElem?
  intro i
  by_cases hi : i < count
  · simp [List.getElem_modify, hi]
  · simp [hi]

namespace Draft

variable {h g : History}
variable {count : Nat}

/- The draft of so many columns with a history. -/
def ofHistory
    (count : Nat)
    (h : History) : Draft :=
  ⟨⟨(List.range count).map fun i => Bound.after (h i),
      Border.exclusive⟩,
    (List.range count).map fun i => Border.after (h i)⟩

/- Where nothing is compared, nothing is bounded. -/
theorem ofHistory_empty
    (count : Nat) :
    ofHistory count .empty = untouched count := by
  simp [ofHistory, untouched, History.empty,
    List.map_const']

/- A history gives a draft of as many columns as asked for. -/
theorem hasColumns_ofHistory
    (count : Nat)
    (h : History) :
    (ofHistory count h).HasColumns count := by
  constructor <;> simp [ofHistory]

/- Writing to a draft extends its history. -/
theorem write_ofHistory
    (count : Nat)
    (h : History)
    (op : Comparator)
    (index : Nat)
    (v : Value) :
    (ofHistory count h).write op index v =
      ofHistory count (h.extend index ⟨op, v⟩) := by
  have hBound (i : Nat) :
      (if index = i then (Bound.after (h i)).set op v
        else Bound.after (h i)) =
        Bound.after (h.extend index ⟨op, v⟩ i) := by
    unfold History.extend
    split
    · rw [Bound.after_append_singleton]
    · rfl
  have hBorder (i : Nat) :
      (if index = i then (Border.after (h i)).close op
        else Border.after (h i)) =
        Border.after (h.extend index ⟨op, v⟩ i) := by
    unfold History.extend
    split
    · rw [Border.after_append_singleton]
    · rfl
  simp only [ofHistory, write, modify_map_range, hBound,
    hBorder]

------------------------------------------------------------
-- Cutting Back
------------------------------------------------------------

/-
  Cutting back keeps a column whose predecessors are exact.
  The induction is on the columns, named by any indices.
-/
theorem getElem?_bounds_cut_map
    (border : Border)
    (bound : Nat → Bound)
    (mark : Nat → Border)
    (columns : List Nat)
    (k : Nat) :
    (cut border (columns.map bound)
        (columns.map mark)).bounds[k]? =
      columns[k]?.map fun i =>
        if (columns.take k).all fun j => (bound j).isExact
        then bound i
        else Bound.unused := by
  induction columns generalizing border k with
  | nil => simp [cut]
  | cons i columns ih =>
      cases k with
      | zero =>
          by_cases hExact : (bound i).isExact <;>
            simp [cut, hExact]
      | succ k =>
          rw [List.map_cons, List.map_cons, cut,
            List.getElem?_cons_succ, List.take_succ_cons,
            List.all_cons]
          by_cases hExact : (bound i).isExact
          · rw [if_pos hExact, hExact, Bool.true_and]
            exact ih (mark i) k
          · rw [if_neg hExact, Bool.eq_false_iff.mpr hExact,
              List.getElem?_cons_succ, List.getElem?_map,
              List.getElem?_map, Option.map_map]
            rfl

/- The border is that of the column where cutting stops. -/
theorem border_cut_map
    (border : Border)
    (bound : Nat → Bound)
    (mark : Nat → Border)
    (columns : List Nat) :
    (cut border (columns.map bound)
        (columns.map mark)).border =
      match columns.find? fun i => !(bound i).isExact with
      | some d => mark d
      | none => (columns.getLast?.map mark).getD border := by
  induction columns generalizing border with
  | nil => simp [cut]
  | cons i columns ih =>
      by_cases hExact : (bound i).isExact
      · simp [cut, hExact, ih, List.getLast?_cons]
      · simp [cut, hExact]

end Draft

------------------------------------------------------------
-- Ranges By History
------------------------------------------------------------

namespace KeyRange

/-
  The range of so many columns with a history.  Columns up to
  and with the first that is not exact have their bounds, and
  later ones are unused.  The border is that of the first
  column that is not exact, or of the last column.
-/
def ofHistory
    (count : Nat)
    (h : History) : KeyRange where
  bounds :=
    (List.range count).map fun i =>
      if (h.divergence? count).any fun d => decide (d < i)
      then Bound.unused
      else Bound.after (h i)
  border :=
    match h.divergence? count with
    | some d => Border.after (h d)
    | none =>
        if count = 0 then Border.exclusive
        else Border.after (h (count - 1))

/-
  Columns behind the divergence are unused, and the others
  are what their own comparisons left.
-/
theorem getElem?_bounds_ofHistory
    (count : Nat)
    (h : History)
    (i : Nat) :
    (ofHistory count h).bounds[i]? =
      if i < count then
        some
          (if (h.divergence? count).any fun d => decide (d < i)
            then Bound.unused
            else Bound.after (h i))
      else none := by
  by_cases hi : i < count <;> simp [ofHistory, hi]

/- The first column whose ends are not the same bound. -/
def divergence?
    (r : KeyRange) : Option Nat :=
  r.bounds.findIdx? fun b => !b.isExact

/- Cutting back does not move the first open column. -/
theorem divergence?_ofHistory
    (count : Nat)
    (h : History) :
    (ofHistory count h).divergence? = h.divergence? count := by
  unfold divergence?
  cases hDivergence : h.divergence? count with
  | none =>
      have hExact :=
        History.divergence?_eq_none_iff.mp hDivergence
      rw [List.findIdx?_eq_none_iff]
      intro b hMember
      rcases List.getElem?_of_mem hMember with ⟨i, hBound⟩
      rw [getElem?_bounds_ofHistory, hDivergence] at hBound
      split at hBound
      · next hi =>
          cases hBound
          simp [hExact i hi]
      · cases hBound
  | some d =>
      rcases History.divergence?_eq_some_iff.mp hDivergence with
        ⟨hLess, hOpen, hBefore⟩
      have hKept (i : Nat) (hi : i ≤ d) :
          (ofHistory count h).bounds[i]? =
            some (Bound.after (h i)) := by
        rw [getElem?_bounds_ofHistory, hDivergence,
          if_pos (Nat.lt_of_le_of_lt hi hLess)]
        simp [Nat.not_lt.mpr hi]
      rw [List.findIdx?_eq_some_iff_getElem]
      rcases List.getElem?_eq_some_iff.mp
          (hKept d (Nat.le_refl d)) with
        ⟨hLength, hAt⟩
      refine ⟨hLength, by simp [hAt, hOpen], ?_⟩
      intro i hi
      rcases List.getElem?_eq_some_iff.mp
          (hKept i (Nat.le_of_lt hi)) with
        ⟨_, hAt⟩
      simp [hAt, hBefore i hi]

end KeyRange

/- Cutting a draft back leaves the range of its history. -/
theorem Draft.normalise_ofHistory
    (count : Nat)
    (h : History) :
    (ofHistory count h).normalise =
      KeyRange.ofHistory count h := by
  have hBounds :
      (ofHistory count h).normalise.bounds =
        (KeyRange.ofHistory count h).bounds := by
    apply List.ext_getElem?
    intro i
    rw [KeyRange.getElem?_bounds_ofHistory]
    unfold normalise ofHistory
    rw [getElem?_bounds_cut_map]
    by_cases hi : i < count
    · have hLe : i ≤ count := Nat.le_of_lt hi
      rw [if_pos hi, List.getElem?_range hi, List.take_range,
        Nat.min_eq_left hLe, h.all_range_isExact hLe]
      cases (h.divergence? count).any fun d => decide (d < i) <;>
        rfl
    · rw [if_neg hi, List.getElem?_eq_none (by simpa using hi)]
      rfl
  have hBorder :
      (ofHistory count h).normalise.border =
        (KeyRange.ofHistory count h).border := by
    unfold normalise ofHistory KeyRange.ofHistory
      History.divergence?
    rw [border_cut_map]
    split
    · rfl
    · rw [List.getLast?_range]
      split <;> rfl
  exact congr (congrArg KeyRange.mk hBounds) hBorder

end PartitionPruning
