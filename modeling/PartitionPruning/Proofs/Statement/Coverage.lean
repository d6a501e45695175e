import PartitionPruning.Proofs.Range.Admission

/-
  No row is lost.

  A row that satisfies the predicates of a statement lies
  within the ranges that the statement resolves to, whatever
  the predicates are and however many of them fail.

  Key definitions include:
    * `Row`
    * `Row.Fits`
    * `Statement.Accepts`
    * `Statement.AcceptsRow`

  Main declarations:
    * `Statement.admits_narrow`
    * `Statement.admits_foldl_narrow`
    * `Statement.admits_of_acceptsRow`
-/

namespace PartitionPruning

variable {le : Value → Value → Prop}

------------------------------------------------------------
-- Rows
------------------------------------------------------------

/- The values of a row in the columns of both levels. -/
structure Row where
  one : List Value
  two : List Value

/- The row has one value for each column of the table. -/
structure Row.Fits
    (row : Row)
    (s : Schema) : Prop where
  one : row.one.length = Statement.firstCount s
  two : row.two.length = Statement.secondCount s

/- A row lies within the drafts of both levels. -/
structure Drafts.Admits
    (c : Collation)
    (le : Value → Value → Prop)
    (d : Drafts)
    (row : Row) : Prop where
  one : d.one.Admits c le row.one
  two : d.two.Admits c le row.two

namespace Statement

/-
  A row satisfies a predicate: where the predicate has a
  value other than `null`, the comparison with it holds in
  every column that the predicate covers.  A predicate that
  fails asks for nothing.
-/
def Accepts
    (s : Statement)
    (ev : Evaluator)
    (le : Value → Value → Prop)
    (row : Row)
    (p : Predicate) : Prop :=
  ∀ v, s.predicateValue ev p = .ok v → v ≠ .null →
    (p.level.coversOne = true →
      ∀ x, row.one[p.first.toNat]? = some x →
        p.op.Holds le x v) ∧
    (p.level.coversTwo = true →
      ∀ x, row.two[p.second.toNat]? = some x →
        p.op.Holds le x v)

/- A row satisfies every predicate of a statement. -/
def AcceptsRow
    (s : Statement)
    (ev : Evaluator)
    (le : Value → Value → Prop)
    (row : Row) : Prop :=
  ∀ predicates, s.predicates? = some predicates →
    ∀ p, some p ∈ predicates → s.Accepts ev le row p

------------------------------------------------------------
-- Runs
------------------------------------------------------------

/- Values of predicates have the session's collation. -/
theorem isUnder_of_predicateValue
    {s : Statement}
    {ev : Evaluator}
    {p : Predicate}
    {v : Value}
    (h : s.predicateValue ev p = .ok v) :
    v.IsUnder s.session.collation := by
  unfold predicateValue at h
  rcases Steps.bind_eq_ok_iff.mp h with ⟨_, _, hRest⟩
  dsimp only at hRest
  split at hRest
  all_goals
    rcases Steps.bind_eq_ok_iff.mp hRest with
      ⟨u, _, hValue⟩
    cases hValue
    exact Value.isUnder_withCollation s.session.collation u

/-
  Before any predicate every row is admitted that has as
  many columns as the levels.
-/
theorem admits_startDrafts
    {s : Schema}
    {start : Drafts}
    {row : Row}
    (c : Collation)
    (hStart : startDrafts s = .ok start)
    (hRow : row.Fits s) :
    start.Admits c le row := by
  rcases startDrafts_eq_ok_iff.mp hStart with ⟨_, rfl⟩
  rw [← hRow.one, ← hRow.two]
  exact
    ⟨Draft.admits_untouched row.one,
      Draft.admits_untouched row.two⟩

/- One predicate keeps the rows that satisfy it. -/
theorem admits_narrow
    {s : Statement}
    {ev : Evaluator}
    {d : Drafts}
    {row : Row}
    {p? : Option Predicate}
    (h : d.Admits s.session.collation le row)
    (hAccepts : ∀ p, p? = some p → s.Accepts ev le row p) :
    (s.narrow ev d p?).Admits s.session.collation le row := by
  cases p? with
  | none => exact h
  | some p =>
      cases hValue : s.predicateValue ev p with
      | error cause =>
          rw [narrow_of_error hValue]
          exact h
      | ok v =>
          have hUnder := isUnder_of_predicateValue hValue
          have hHolds := hAccepts p rfl v hValue
          rw [narrow_of_ok hValue]
          have hWriteOne (hCovers : p.level.coversOne = true) :=
            h.one.write hUnder fun x hx hNull =>
              (hHolds hNull).1 hCovers x hx
          have hWriteTwo (hCovers : p.level.coversTwo = true) :=
            h.two.write hUnder fun x hx hNull =>
              (hHolds hNull).2 hCovers x hx
          have hKept :=
            Drafts.place_keeps
              (P := (·.Admits s.session.collation le row.one))
              (Q := (·.Admits s.session.collation le row.two))
              p.level h.one h.two hWriteOne hWriteTwo
          exact ⟨hKept.1, hKept.2⟩

/- A run keeps the rows that satisfy all of its predicates. -/
theorem admits_foldl_narrow
    {s : Statement}
    {ev : Evaluator}
    {d : Drafts}
    {row : Row}
    {predicates : List (Option Predicate)}
    (h : d.Admits s.session.collation le row)
    (hAccepts :
      ∀ p, some p ∈ predicates → s.Accepts ev le row p) :
    (predicates.foldl (s.narrow ev) d).Admits
      s.session.collation le row := by
  induction predicates generalizing d with
  | nil => exact h
  | cons p? rest ih =>
      rw [List.foldl_cons]
      apply ih
      · apply admits_narrow h
        intro p hp
        subst hp
        exact hAccepts p List.mem_cons_self
      · intro p hp
        exact hAccepts p (List.mem_cons_of_mem p? hp)

------------------------------------------------------------
-- Whole Statements
------------------------------------------------------------

/-
  Ranges lose no row: one that satisfies the predicates is
  admitted in both levels.  In a table with generated keys
  the values of predicates are the derived ones.
-/
theorem admits_of_acceptsRow
    {s : Statement}
    {ev : Evaluator}
    {ranges : Ranges}
    {row : Row}
    (hOrder : Value.IsOrder s.session.collation le)
    (hPlain : s.isInsert = false)
    (hResult : (s.resolve ev).result = .ok ranges)
    (hRow : row.Fits s.schema)
    (hAccepts : s.AcceptsRow ev le row) :
    ranges.one.Admits le row.one ∧
      ranges.two.Admits le row.two := by
  rcases exists_of_result_resolve_eq_ok hResult with
    ⟨predicates, start, d, hPredicates, hStart, hDefaults,
      rfl⟩
  have hStartAdmits :
      start.Admits s.session.collation le row :=
    admits_startDrafts s.session.collation hStart hRow
  have hRun :
      (predicates.foldl (s.narrow ev) start).Admits
        s.session.collation le row :=
    admits_foldl_narrow hStartAdmits
      (hAccepts predicates hPredicates)
  have hEnd :
      predicates.foldl (s.narrow ev) start = d := by
    simpa [applyDefaults, hPlain] using hDefaults
  rw [hEnd] at hRun
  exact
    ⟨hRun.one.normalise hOrder, hRun.two.normalise hOrder⟩

/-
  Orders of one year and region in some of its months.  The
  border of the month is closed by a predicate that a later
  one overwrites, and the last bound of the month fails in
  level two.
-/
def monthlyOrders : Statement where
  config := default
  predicates? :=
    some
      [some ⟨0, 0, 0, .one, .eq, .int 7, false⟩,
        none,
        some ⟨1, 1, 0, .one, .ge, .int 3, false⟩,
        some ⟨1, 1, 0, .one, .gt, .int 5, false⟩,
        some ⟨1, 1, 9, .both, .lt, .int 11, false⟩,
        some ⟨2, 0, 0, .two, .eq, .text [0x6D], false⟩]
  schema :=
    ⟨.two, ["year", "month"], ["region"], [], .mysql⟩
  session := Session.ofCollation ⟨46⟩
  request := default
  prepared? := none
  fields := default
  isInsert := false

/- The ranges of `monthlyOrders`. -/
def monthlyRanges : Ranges :=
  ⟨⟨[⟨.int 7, .int 7⟩, ⟨.int 5, .int 11⟩], ⟨true, false⟩⟩,
    ⟨[⟨.text [0x6D] ⟨46⟩, .text [0x6D] ⟨46⟩⟩],
      ⟨true, true⟩⟩⟩

/- An order of the eighth month. -/
def augustOrder : Row :=
  ⟨[.int 7, .int 8], [.text [0x6D] ⟨46⟩]⟩

theorem acceptsRow_augustOrder :
    monthlyOrders.AcceptsRow .builtin Value.bytewise
      augustOrder := by
  intro predicates hPredicates p hMember
  cases hPredicates
  simp only [List.mem_cons, Option.some.injEq, reduceCtorEq,
    List.not_mem_nil, or_false, false_or] at hMember
  intro v hValue _
  rcases hMember with rfl | rfl | rfl | rfl | rfl <;>
    cases hValue <;>
    constructor <;> intro hCovers x hx <;> cases hx <;>
    revert hCovers <;> decide

theorem admits_augustOrder :
    Value.IsOrder monthlyOrders.session.collation
        Value.bytewise ∧
      monthlyOrders.isInsert = false ∧
      (monthlyOrders.resolve .builtin).result =
        .ok monthlyRanges ∧
      augustOrder.Fits monthlyOrders.schema ∧
      monthlyOrders.AcceptsRow .builtin Value.bytewise
        augustOrder ∧
      monthlyRanges.one.Admits Value.bytewise
        augustOrder.one ∧
      monthlyRanges.two.Admits Value.bytewise
        augustOrder.two :=
  have hOrder :
      Value.IsOrder monthlyOrders.session.collation
        Value.bytewise :=
    Value.isOrder_bytewise (by decide)
  have hResult :
      (monthlyOrders.resolve .builtin).result =
        .ok monthlyRanges := rfl
  ⟨hOrder, rfl, hResult, ⟨rfl, rfl⟩,
    acceptsRow_augustOrder,
    admits_of_acceptsRow hOrder rfl hResult ⟨rfl, rfl⟩
      acceptsRow_augustOrder⟩

end Statement

end PartitionPruning
