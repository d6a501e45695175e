import PartitionPruning.Proofs.Statement.Failing
import PartitionPruning.Proofs.Statement.Writes

/-
  What the ranges of a statement are, column by column.

  Each end of a column has the value of the last predicate
  that bounds it.  An end belongs to the range once some
  predicate has closed it, even where the last one that
  bounds it does not.

  Key definitions include:
    * `Statement.FindsColumns`
    * `Comparison.ClosedByLast`
    * `Comparison.LeftClosed`
    * `KeyRange.MarksLast`

  Main declarations:
    * `Statement.ranges_eq_ofHistory`
    * `Statement.marksLast_of_result`
-/

namespace PartitionPruning

open Statement (firstCount secondCount)

------------------------------------------------------------
-- Exact Ranges
------------------------------------------------------------

namespace Statement

variable {s : Statement}
variable {ev : Evaluator}
variable {ranges : Ranges}
variable {predicates : List (Option Predicate)}

/-
  Every predicate has no level, or has no value, or has its
  column in each level that it covers.
-/
def FindsColumns
    (s : Statement)
    (ev : Evaluator)
    (predicates : List (Option Predicate)) : Prop :=
  ∀ p, some p ∈ predicates →
    p.level = .zero ∨
      (∃ cause, s.predicateValue ev p = .error cause) ∨
      ¬ p.IsOutside s.schema

/- Predicates that find their columns reach level two. -/
theorem passesOne_of_findsColumns
    (h : s.FindsColumns ev predicates)
    {w : Write}
    (hWrite : w ∈ s.predicateWrites ev predicates) :
    w.passesOne s.schema = true := by
  rcases List.mem_filterMap.mp hWrite with
    ⟨p?, hMember, hSome⟩
  cases p? with
  | none => cases hSome
  | some p =>
      unfold predicateWrite? at hSome
      cases hValue : s.predicateValue ev p with
      | error cause => simp [hValue] at hSome
      | ok v =>
          simp only [hValue, Option.some.injEq] at hSome
          subst hSome
          rcases h p hMember with hZero | ⟨_, hFails⟩ | hInside
          · simp [Write.passesOne, hZero, KeyLevel.coversOne]
          · rw [hValue] at hFails
            cases hFails
          · have hFirst :
                p.level.coversOne = true →
                  p.first.toNat < firstCount s.schema := by
              intro hCovers
              apply Nat.lt_of_not_le
              intro hMissing
              exact hInside (Or.inl ⟨hCovers, hMissing⟩)
            unfold Write.passesOne
            cases hCovers : p.level.coversOne with
            | false => rfl
            | true => simpa using hFirst hCovers

/-
  The ranges of a statement are those of the comparisons
  that its predicates make with each column, in order.
-/
theorem ranges_eq_ofHistory
    (hPredicates : s.predicates? = some predicates)
    (hPlain : s.isInsert = false)
    (hResult : (s.resolve ev).result = .ok ranges)
    (hColumns : s.FindsColumns ev predicates) :
    (ranges.one =
        KeyRange.ofHistory (firstCount s.schema)
          (Write.history KeyLevel.coversOne Write.first
            (s.predicateWrites ev predicates)) ∧
      ranges.one.lowerKey.length = firstCount s.schema ∧
      ranges.one.upperKey.length = firstCount s.schema) ∧
    (ranges.two =
        KeyRange.ofHistory (secondCount s.schema)
          (Write.history KeyLevel.coversTwo Write.second
            (s.predicateWrites ev predicates)) ∧
      ranges.two.lowerKey.length = secondCount s.schema ∧
      ranges.two.upperKey.length = secondCount s.schema) := by
  have hWrites :
      s.writes ev predicates =
        s.predicateWrites ev predicates := by
    simp [writes, hPlain]
  have hPass :
      (s.predicateWrites ev predicates).filter
          (Write.passesOne s.schema) =
        s.predicateWrites ev predicates :=
    List.filter_eq_self.mpr fun _ hWrite =>
      passesOne_of_findsColumns hColumns hWrite
  have hRanges := ranges_eq_ofWrites hPredicates hResult
  rw [hWrites, Write.historyOne, Write.historyTwo, hPass]
    at hRanges
  subst hRanges
  refine ⟨⟨rfl, ?_, ?_⟩, ⟨rfl, ?_, ?_⟩⟩ <;>
    simp [KeyRange.lowerKey, KeyRange.upperKey,
      KeyRange.ofHistory]

/-
  Orders of one year from some month on.  The day is given,
  but the month before it is open.  Two predicates lie
  beyond the columns: one has no level and one no value.
-/
def lateOrders : Statement where
  config := default
  predicates? :=
    some
      [some ⟨0, 0, 0, .one, .eq, .int 7, false⟩,
        none,
        some ⟨1, 1, 0, .one, .ge, .int 3, false⟩,
        some ⟨1, 1, 0, .one, .gt, .int 5, false⟩,
        some ⟨4, 9, 9, .zero, .eq, .int 1, false⟩,
        some ⟨4, 9, 9, .both, .eq, .column "owner", false⟩,
        some ⟨2, 2, 0, .one, .eq, .int 9, false⟩,
        some ⟨3, 0, 0, .two, .eq, .text [0x6D], false⟩]
  schema :=
    ⟨.two, ["year", "month", "day"], ["region"], [], .mysql⟩
  session := Session.ofCollation ⟨46⟩
  request := default
  prepared? := none
  fields := default
  isInsert := false

/- The predicates of `lateOrders`. -/
def latePredicates : List (Option Predicate) :=
  lateOrders.predicates?.getD []

/- The ranges of `lateOrders`. -/
def lateRanges : Ranges :=
  ⟨⟨[⟨.int 7, .int 7⟩, ⟨.int 5, .null⟩, ⟨.greatest, .least⟩],
      ⟨true, false⟩⟩,
    ⟨[⟨.text [0x6D] ⟨46⟩, .text [0x6D] ⟨46⟩⟩],
      ⟨true, true⟩⟩⟩

theorem findsColumns_lateOrders :
    lateOrders.FindsColumns .builtin latePredicates := by
  intro p hMember
  simp only [latePredicates, lateOrders, Option.getD_some,
    List.mem_cons, Option.some.injEq, reduceCtorEq,
    List.not_mem_nil, or_false, false_or] at hMember
  rcases hMember with
    rfl | rfl | rfl | rfl | rfl | rfl | rfl
  · exact Or.inr (Or.inr (by decide))
  · exact Or.inr (Or.inr (by decide))
  · exact Or.inr (Or.inr (by decide))
  · exact Or.inl rfl
  · exact Or.inr (Or.inl ⟨.columnOperand "owner", rfl⟩)
  · exact Or.inr (Or.inr (by decide))
  · exact Or.inr (Or.inr (by decide))

theorem ranges_lateOrders :
    (lateOrders.resolve .builtin).result = .ok lateRanges ∧
      lateRanges.one =
        KeyRange.ofHistory 3
          (Write.history KeyLevel.coversOne Write.first
            (lateOrders.predicateWrites .builtin
              latePredicates)) ∧
      lateRanges.two =
        KeyRange.ofHistory 1
          (Write.history KeyLevel.coversTwo Write.second
            (lateOrders.predicateWrites .builtin
              latePredicates)) :=
  have hResult :
      (lateOrders.resolve .builtin).result =
        .ok lateRanges := rfl
  have hRanges :=
    ranges_eq_ofHistory rfl rfl hResult
      findsColumns_lateOrders
  ⟨hResult, hRanges.1.1, hRanges.2.1⟩

end Statement

------------------------------------------------------------
-- Markers Of The Border
------------------------------------------------------------

namespace Comparison

/-
  The last comparison that bounds the column from a side
  lets its value belong to the range.
-/
def ClosedByLast
    (side : Side)
    (cs : List Comparison) : Prop :=
  ∃ c, last? side cs = some c ∧ c.op.closes side = true

/-
  A side that some comparison closed, where the last one
  that bounds it does not.
-/
def LeftClosed
    (side : Side)
    (cs : List Comparison) : Prop :=
  (∃ c, last? side cs = some c ∧ c.op.closes side = false) ∧
    ∃ c ∈ cs, c.op.closes side = true

/-
  A side that was closed before its last comparison is not
  closed by it.
-/
theorem not_closedByLast_of_leftClosed
    {side : Side}
    {cs : List Comparison}
    (h : LeftClosed side cs) :
    ¬ ClosedByLast side cs := by
  rcases h with ⟨⟨c, hLast, hOpen⟩, _⟩
  rintro ⟨d, hSame, hClosed⟩
  rw [hLast] at hSame
  cases hSame
  rw [hOpen] at hClosed
  cases hClosed

/- A comparison that closes a side makes one the last there. -/
theorem exists_last?_of_closes
    {side : Side}
    {cs : List Comparison}
    {c : Comparison}
    (hMember : c ∈ cs)
    (hCloses : c.op.closes side = true) :
    ∃ d, last? side cs = some d := by
  have hBounds : c.op.bounds side = true :=
    Comparator.bounds_of_closes hCloses
  have hKept : c ∈ cs.filter fun d => d.op.bounds side :=
    List.mem_filter.mpr ⟨hMember, hBounds⟩
  have hNe := List.ne_nil_of_mem hKept
  exact ⟨_, List.getLast?_eq_some_getLast hNe⟩

/- Elsewhere a side is closed when its last comparison does. -/
theorem exists_closes_iff_closedByLast
    {side : Side}
    {cs : List Comparison}
    (h : ¬ LeftClosed side cs) :
    (∃ c ∈ cs, c.op.closes side = true) ↔
      ClosedByLast side cs := by
  constructor
  · intro hCloses
    rcases hCloses with ⟨c, hMember, hClosed⟩
    rcases exists_last?_of_closes hMember hClosed with
      ⟨d, hLast⟩
    cases hd : d.op.closes side with
    | true => exact ⟨d, hLast, hd⟩
    | false =>
        exact absurd ⟨⟨d, hLast, hd⟩, c, hMember, hClosed⟩ h
  · rintro ⟨c, hLast, hClosed⟩
    have hKept := List.mem_of_getLast? hLast
    exact ⟨c, (List.mem_filter.mp hKept).1, hClosed⟩

end Comparison

/-
  At its first open column a range has the markers of the
  last comparisons, except where one was left closed.
-/
def KeyRange.MarksLast
    (r : KeyRange)
    (h : History) : Prop :=
  ∀ d, r.divergence? = some d → ∀ side,
    (¬ Comparison.LeftClosed side (h d) →
      (r.border.includes side = true ↔
        Comparison.ClosedByLast side (h d))) ∧
    (Comparison.LeftClosed side (h d) →
      r.border.includes side = true ∧
        ¬ Comparison.ClosedByLast side (h d))

/-
  What a history leaves marks its last comparisons: at the
  first open column a side is closed if any comparison has
  closed it.
-/
theorem KeyRange.marksLast_ofHistory
    (count : Nat)
    (h : History) :
    (ofHistory count h).MarksLast h := by
  intro d hDivergence side
  rw [divergence?_ofHistory] at hDivergence
  have hBorder :
      (ofHistory count h).border = Border.after (h d) := by
    simp [ofHistory, hDivergence]
  have hMarked :
      (ofHistory count h).border.includes side = true ↔
        ∃ c ∈ h d, c.op.closes side = true := by
    rw [hBorder, Border.includes_after, List.any_eq_true]
  constructor
  · intro hKept
    rw [hMarked]
    exact Comparison.exists_closes_iff_closedByLast hKept
  · intro hLeft
    exact
      ⟨hMarked.mpr hLeft.2,
        Comparison.not_closedByLast_of_leftClosed hLeft⟩

namespace Statement

variable {s : Statement}
variable {ev : Evaluator}
variable {ranges : Ranges}
variable {predicates : List (Option Predicate)}

/-
  Every range has the markers of the last comparisons that
  bound its first open column, except where an earlier one
  left the column closed: there the marker stays.
-/
theorem marksLast_of_result
    (hPredicates : s.predicates? = some predicates)
    (hResult : (s.resolve ev).result = .ok ranges) :
    ranges.one.MarksLast
        (Write.historyOne (s.writes ev predicates)) ∧
      ranges.two.MarksLast
        (Write.historyTwo s.schema
          (s.writes ev predicates)) := by
  have hRanges := ranges_eq_ofWrites hPredicates hResult
  subst hRanges
  exact
    ⟨KeyRange.marksLast_ofHistory _ _,
      KeyRange.marksLast_ofHistory _ _⟩

theorem marksLast_lateOrders :
    (lateOrders.resolve .builtin).result = .ok lateRanges ∧
      lateRanges.one.MarksLast
        (Write.historyOne
          (lateOrders.writes .builtin latePredicates)) ∧
      lateRanges.two.MarksLast
        (Write.historyTwo lateOrders.schema
          (lateOrders.writes .builtin latePredicates)) :=
  have hResult :
      (lateOrders.resolve .builtin).result =
        .ok lateRanges := rfl
  ⟨hResult, marksLast_of_result rfl hResult⟩

/-
  The month lies above five, yet five belongs to the range:
  the comparison before it had closed the month.
-/
theorem month_leftClosed :
    (lateOrders.resolve .builtin).result = .ok lateRanges ∧
      lateRanges.one.divergence? = some 1 ∧
      Comparison.last? .lower
          (Write.historyOne
            (lateOrders.writes .builtin latePredicates) 1) =
        some ⟨.gt, .int 5⟩ ∧
      ¬ (lateRanges.one.border.includes .lower = true ↔
        Comparison.ClosedByLast .lower
          (Write.historyOne
            (lateOrders.writes .builtin latePredicates) 1)) := by
  have hLast :
      Comparison.last? .lower
          (Write.historyOne
            (lateOrders.writes .builtin latePredicates) 1) =
        some ⟨.gt, .int 5⟩ := rfl
  refine ⟨rfl, rfl, hLast, ?_⟩
  intro hMarks
  rcases hMarks.mp rfl with ⟨c, hSome, hClosed⟩
  rw [hLast] at hSome
  cases hSome
  cases hClosed

end Statement

end PartitionPruning
