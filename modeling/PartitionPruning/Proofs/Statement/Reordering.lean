import Mathlib.Data.List.FinRange
import PartitionPruning.Proofs.Statement.Writes

/-
  Predicates in another order.

  Each end of a column has the value that the last predicate
  gave it, and belongs to the range once any predicate has
  closed it.  So predicates may change places unless they
  set the same end of the same column.

  Key definitions include:
    * `ColumnEnd`
    * `Write.ends`
    * `Statement.ends`
    * `Statement.KeepsEnds`

  Main declarations:
    * `filter_map_get`
    * `Drafts.ofWrites_congr`
    * `Statement.result_reordered`
-/

namespace PartitionPruning

open Statement (firstCount secondCount)

------------------------------------------------------------
-- Lists In Another Order
------------------------------------------------------------

/-
  Items that keep their order are the same list after the
  reordering, whatever else changes places.  Their places
  increase in both orders.
-/
theorem filter_map_get
    {α : Type}
    {items : List α}
    {order : List (Fin items.length)}
    (keeps : α → Bool)
    (hPerm : order.Perm (List.finRange items.length))
    (hOrder :
      order.Pairwise fun i j =>
        keeps (items.get i) = true →
          keeps (items.get j) = true → i < j) :
    (order.map items.get).filter keeps =
      items.filter keeps := by
  have hAsymm (i j : Fin items.length) :
      i < j → j < i → i = j := by
    intro hLess hMore
    exact absurd hMore (lt_asymm hLess)
  have hIncreasing :
      (List.finRange items.length).Pairwise (· < ·) :=
    List.pairwise_lt_finRange items.length
  have hSame :
      order.filter (keeps ∘ items.get) =
        (List.finRange items.length).filter
          (keeps ∘ items.get) :=
    List.Perm.eq_of_pairwise (fun i j _ _ => hAsymm i j)
      (List.pairwise_filter.mpr hOrder)
      (hIncreasing.filter _) (hPerm.filter _)
  calc
    (order.map items.get).filter keeps
        = (order.filter (keeps ∘ items.get)).map
            items.get := List.filter_map
    _ = ((List.finRange items.length).map
            items.get).filter keeps := by
          rw [hSame, List.filter_map]
    _ = items.filter keeps := by
          rw [List.map_get_finRange]

------------------------------------------------------------
-- Ends That Writes Set
------------------------------------------------------------

/- The start or the end of a column, in level one or two. -/
inductive ColumnEnd where
  | one (index : Nat) (side : Side)
  | two (index : Nat) (side : Side)
deriving DecidableEq

/-
  A write gives an end of a column its value.  A write to
  columns that do not exist sets nothing, and neither does
  one that fails in level one before it comes to level two.
-/
def Write.sets
    (s : Schema)
    (w : Write) : ColumnEnd → Bool
  | .one index side =>
      w.level.coversOne && decide (w.first = index) &&
        decide (index < firstCount s) &&
        w.comparison.op.bounds side
  | .two index side =>
      w.level.coversTwo && w.passesOne s &&
        decide (w.second = index) &&
        decide (index < secondCount s) &&
        w.comparison.op.bounds side

/- The ends that a write gives its value. -/
def Write.ends
    (s : Schema)
    (w : Write) : List ColumnEnd :=
  [.one w.first .lower, .one w.first .upper,
    .two w.second .lower, .two w.second .upper].filter
      (w.sets s)

/- The ends that a write sets are listed. -/
@[simp]
theorem Write.mem_ends_iff
    {s : Schema}
    {w : Write}
    {e : ColumnEnd} :
    e ∈ w.ends s ↔ w.sets s e = true := by
  unfold ends
  rw [List.mem_filter, and_iff_right_iff_imp]
  intro hSets
  cases e with
  | one index side =>
      have hFirst : w.first = index := by
        simp only [sets, Bool.and_eq_true,
          decide_eq_true_eq] at hSets
        exact hSets.1.1.2
      subst hFirst
      cases side <;> simp
  | two index side =>
      have hSecond : w.second = index := by
        simp only [sets, Bool.and_eq_true,
          decide_eq_true_eq] at hSets
        exact hSets.1.1.2
      subst hSecond
      cases side <;> simp

/- The last comparison of an end is made by the last write. -/
theorem Write.last?_historyOne
    {s : Schema}
    {index : Nat}
    (hIndex : index < firstCount s)
    (side : Side)
    (ws : List Write) :
    Comparison.last? side (historyOne ws index) =
      (ws.filter fun w =>
        w.sets s (.one index side)).getLast?.map
          comparison := by
  unfold Comparison.last? historyOne history
  rw [List.filter_map, List.filter_filter, List.getLast?_map]
  congr 2
  apply List.filter_congr
  intro w _
  cases hBounds : w.comparison.op.bounds side <;>
    simp [sets, hIndex, hBounds]

/-
  The last comparison on a side of a column in level two,
  which counts only where level one was passed.
-/
theorem Write.last?_historyTwo
    {s : Schema}
    {index : Nat}
    (hIndex : index < secondCount s)
    (side : Side)
    (ws : List Write) :
    Comparison.last? side (historyTwo s ws index) =
      (ws.filter fun w =>
        w.sets s (.two index side)).getLast?.map
          comparison := by
  unfold Comparison.last? historyTwo history
  rw [List.filter_map, List.filter_filter,
    List.filter_filter, List.getLast?_map]
  congr 2
  apply List.filter_congr
  intro w _
  cases hBounds : w.comparison.op.bounds side <;>
    cases hPasses : w.passesOne s <;>
    simp [sets, hIndex, hBounds, hPasses]

/- The bound depends on the last comparison of each side. -/
theorem Bound.after_congr
    {cs ds : List Comparison}
    (h :
      ∀ side,
        Comparison.last? side cs = Comparison.last? side ds) :
    after cs = after ds := by
  simp only [after, Comparison.lastValue, h]

/- The border does not depend on the order of comparisons. -/
theorem Border.after_perm
    {cs ds : List Comparison}
    (h : cs.Perm ds) :
    after cs = after ds := by
  simp only [after, h.any_eq]

/-
  A draft depends on what comparisons leave, and not on
  the comparisons.
-/
theorem Draft.ofHistory_congr
    {count : Nat}
    {h g : History}
    (hBounds :
      ∀ i < count, Bound.after (h i) = Bound.after (g i))
    (hBorders :
      ∀ i < count, Border.after (h i) = Border.after (g i)) :
    ofHistory count h = ofHistory count g := by
  have hBoundList :
      ((List.range count).map fun i => Bound.after (h i)) =
        (List.range count).map fun i => Bound.after (g i) :=
    List.map_congr_left fun i hi =>
      hBounds i (List.mem_range.mp hi)
  have hBorderList :
      ((List.range count).map fun i => Border.after (h i)) =
        (List.range count).map fun i => Border.after (g i) :=
    List.map_congr_left fun i hi =>
      hBorders i (List.mem_range.mp hi)
  rw [ofHistory, ofHistory, hBoundList, hBorderList]

/-
  The same writes leave the same drafts in any two orders
  that agree on each end of each column.
-/
theorem Drafts.ofWrites_congr
    {s : Schema}
    {ws others : List Write}
    (hPerm : ws.Perm others)
    (hEnds :
      ∀ e, ws.filter (·.sets s e) =
        others.filter (·.sets s e)) :
    ofWrites s ws = ofWrites s others := by
  unfold ofWrites
  congr 1
  · apply Draft.ofHistory_congr
    · intro i hi
      apply Bound.after_congr
      intro side
      rw [Write.last?_historyOne hi, Write.last?_historyOne hi,
        hEnds]
    · intro i _
      exact Border.after_perm ((hPerm.filter _).map _)
  · apply Draft.ofHistory_congr
    · intro i hi
      apply Bound.after_congr
      intro side
      rw [Write.last?_historyTwo hi, Write.last?_historyTwo hi,
        hEnds]
    · intro i _
      exact
        Border.after_perm
          (((hPerm.filter _).filter _).map _)

------------------------------------------------------------
-- Whole Statements
------------------------------------------------------------

namespace Statement

variable {s : Statement}
variable {ev : Evaluator}
variable {predicates : List (Option Predicate)}

/- The ends that a predicate gives its value. -/
def ends
    (s : Statement)
    (ev : Evaluator)
    (p? : Option Predicate) : List ColumnEnd :=
  match s.predicateWrite? ev p? with
  | none => []
  | some w => w.ends s.schema

/- The writes to an end are those of predicates that set it. -/
theorem filter_predicateWrites
    (s : Statement)
    (ev : Evaluator)
    (predicates : List (Option Predicate))
    (e : ColumnEnd) :
    (s.predicateWrites ev predicates).filter
        (·.sets s.schema e) =
      s.predicateWrites ev
        (predicates.filter fun p? =>
          decide (e ∈ s.ends ev p?)) := by
  unfold predicateWrites
  rw [List.filter_filterMap, List.filterMap_filter]
  congr 1
  funext p?
  unfold ends
  cases s.predicateWrite? ev p? with
  | none => rfl
  | some w =>
      cases hSets : w.sets s.schema e <;> simp [hSets]

/-
  An order of predicates, by their places, in which any two
  that set the same end of a column stay in their order.
-/
structure KeepsEnds
    (s : Statement)
    (ev : Evaluator)
    (predicates : List (Option Predicate))
    (order : List (Fin predicates.length)) : Prop where
  perm : order.Perm (List.finRange predicates.length)
  inOrder :
    order.Pairwise fun i j =>
      ∀ e ∈ s.ends ev (predicates.get i),
        e ∈ s.ends ev (predicates.get j) → i < j

/- Predicates leave the same drafts in such an order. -/
theorem foldl_narrow_reordered
    {order : List (Fin predicates.length)}
    (h : s.KeepsEnds ev predicates order) :
    (order.map predicates.get).foldl (s.narrow ev)
        (Drafts.ofWrites s.schema []) =
      predicates.foldl (s.narrow ev)
        (Drafts.ofWrites s.schema []) := by
  have hPerm :
      (order.map predicates.get).Perm predicates := by
    have hMap := h.perm.map predicates.get
    rwa [List.map_get_finRange] at hMap
  rw [foldl_narrow, foldl_narrow,
    Drafts.foldl_apply_ofWrites,
    Drafts.foldl_apply_ofWrites, List.nil_append,
    List.nil_append]
  apply Drafts.ofWrites_congr
  · exact hPerm.filterMap _
  · intro e
    have hInOrder :
        order.Pairwise fun i j =>
          decide (e ∈ s.ends ev (predicates.get i)) = true →
            decide (e ∈ s.ends ev (predicates.get j)) = true →
              i < j := by
      refine h.inOrder.imp ?_
      intro i j hBoth hi hj
      exact hBoth e (of_decide_eq_true hi) (of_decide_eq_true hj)
    rw [filter_predicateWrites, filter_predicateWrites,
      filter_map_get _ h.perm hInOrder]

/-
  A statement has the same result with its predicates in any
  order that keeps those of each end of each column in
  theirs.
-/
theorem result_reordered
    {order : List (Fin predicates.length)}
    (hPredicates : s.predicates? = some predicates)
    (hOrder : s.KeepsEnds ev predicates order) :
    ((s.withPredicates
        (order.map predicates.get)).resolve ev).result =
      (s.resolve ev).result := by
  rw [result_resolve ev rfl, result_resolve ev hPredicates]
  cases hStart : startDrafts s.schema with
  | error cause => simp [hStart]
  | ok start =>
      have hUntouched := startDrafts_eq_ofWrites hStart
      subst hUntouched
      simp [hStart, foldl_narrow_reordered hOrder]

/-
  An `INSERT` that leaves its day to a default.  One
  predicate is placed in level one only, since it lacks its
  column in level two, one compares with a column, and one
  is missing.
-/
def monthInsert : Statement where
  config := default
  predicates? :=
    some
      [some ⟨0, 0, 0, .one, .eq, .int 7, false⟩,
        some ⟨1, 1, 0, .one, .ge, .int 3, false⟩,
        some ⟨1, 1, 9, .both, .le, .int 5, false⟩,
        some ⟨1, 1, 0, .one, .gt, .int 5, false⟩,
        some ⟨0, 0, 0, .both, .eq, .column "owner", false⟩,
        none]
  schema :=
    ⟨.two, ["year", "month", "day"], ["region"],
      [⟨"day", .one, 2, false, none, none, none,
        [1, 9, 0, 0, 0, 0, 0, 0, 0], false⟩],
      .mysql⟩
  session := Session.ofCollation ⟨46⟩
  request := default
  prepared? := none
  fields := default
  isInsert := true

/- The predicates of `monthInsert`. -/
def monthPredicates : List (Option Predicate) :=
  monthInsert.predicates?.getD []

/-
  Another order of them.  Those that bound the month from
  below stay in their order.
-/
def monthOrder : List (Fin monthPredicates.length) :=
  [⟨4, by decide⟩, ⟨2, by decide⟩, ⟨1, by decide⟩,
    ⟨3, by decide⟩, ⟨5, by decide⟩, ⟨0, by decide⟩]

/- The ranges of `monthInsert`. -/
def monthRanges : Ranges :=
  ⟨⟨[⟨.int 7, .int 7⟩, ⟨.int 5, .int 5⟩, ⟨.int 9, .int 9⟩],
      ⟨true, true⟩⟩,
    ⟨[Bound.unset], Border.exclusive⟩⟩

theorem keepsEnds_monthInsert :
    monthInsert.KeepsEnds .builtin monthPredicates
      monthOrder where
  perm := by decide
  inOrder := by decide

theorem result_monthInsert :
    monthInsert.KeepsEnds .builtin monthPredicates
        monthOrder ∧
      (monthInsert.resolve .builtin).result =
        .ok monthRanges ∧
      ((monthInsert.withPredicates
          (monthOrder.map monthPredicates.get)).resolve
            .builtin).result =
        .ok monthRanges :=
  have hRanges :
      (monthInsert.resolve .builtin).result =
        .ok monthRanges := rfl
  ⟨keepsEnds_monthInsert, hRanges,
    (result_reordered rfl keepsEnds_monthInsert).trans
      hRanges⟩

end Statement

end PartitionPruning
