import PartitionPruning.Proofs.Steps
import PartitionPruning.Statement.Resolution

/-
  What the predicates of a statement leave in its drafts.

  Notices aside, placing predicates is a fold: each one
  narrows the drafts or leaves them as they are.  Neither
  changes how many columns the drafts have.

  Key definitions include:
    * `Draft.write`
    * `Draft.HasColumns`
    * `Drafts.Fits`
    * `Drafts.write`
    * `Statement.withPredicates`
    * `Statement.narrow`

  The fold stands for the run:
    * `Statement.drafts_placePredicates`
    * `Statement.result_resolve`
-/

namespace PartitionPruning

------------------------------------------------------------
-- Writing To A Column
------------------------------------------------------------

namespace Draft

/-
  Compare the column at an index with a value.  An index
  beyond the columns changes nothing.
-/
def write
    (d : Draft)
    (op : Comparator)
    (index : Nat)
    (v : Value) : Draft :=
  ⟨⟨d.range.bounds.modify index (·.set op v), d.range.border⟩,
    d.borders.modify index (·.close op)⟩

/- A draft of so many columns. -/
structure HasColumns
    (d : Draft)
    (count : Nat) : Prop where
  bounds : d.range.bounds.length = count
  borders : d.borders.length = count

/- A write sets the bound of its own column only. -/
theorem getElem?_bounds_write
    (d : Draft)
    (op : Comparator)
    (index : Nat)
    (v : Value)
    (i : Nat) :
    (d.write op index v).range.bounds[i]? =
      if index = i then d.range.bounds[i]?.map (·.set op v)
      else d.range.bounds[i]? := by
  rw [write, List.getElem?_modify]
  split <;> simp

/- A write closes the border of its own column only. -/
theorem getElem?_borders_write
    (d : Draft)
    (op : Comparator)
    (index : Nat)
    (v : Value)
    (i : Nat) :
    (d.write op index v).borders[i]? =
      if index = i then d.borders[i]?.map (·.close op)
      else d.borders[i]? := by
  rw [write, List.getElem?_modify]
  split <;> simp

/-
  A comparison that does not bound a range leaves no
  trace.
-/
@[simp]
theorem write_other
    (d : Draft)
    (index : Nat)
    (v : Value) :
    d.write .other index v = d := by
  simp only [write, Bound.set_other, Border.close_other]
  rw [show (fun b : Bound => b) = id from rfl,
    show (fun b : Border => b) = id from rfl,
    List.modify_id, List.modify_id]

/- A write keeps the number of columns. -/
theorem HasColumns.write
    {d : Draft}
    {count : Nat}
    (h : d.HasColumns count)
    (op : Comparator)
    (index : Nat)
    (v : Value) :
    (d.write op index v).HasColumns count := by
  constructor
  · simpa [Draft.write] using h.bounds
  · simpa [Draft.write] using h.borders

/- A draft that nothing has been written to. -/
def untouched
    (count : Nat) : Draft :=
  ⟨⟨List.replicate count Bound.unset, Border.exclusive⟩,
    List.replicate count Border.exclusive⟩

theorem hasColumns_untouched
    (count : Nat) :
    (untouched count).HasColumns count := by
  constructor <;> simp [untouched]

/- Placing writes, or fails beyond the columns. -/
theorem HasColumns.place
    {d : Draft}
    {count : Nat}
    (h : d.HasColumns count)
    (op : Comparator)
    (index : Nat)
    (v : Value) :
    d.place op index v =
      if index < count then .ok (d.write op index v)
      else .error (.noColumn index count) := by
  unfold Draft.place
  have hCount : d.range.columnCount = count := h.bounds
  rw [hCount, h.borders]
  by_cases hIndex : index < count
  · simp [hIndex, Draft.write]
  · simp [hIndex]

/- Placing writes where it does not fail. -/
theorem place_eq_ok
    {d d' : Draft}
    {op : Comparator}
    {index : Nat}
    {v : Value}
    (h : d.place op index v = .ok d') :
    d' = d.write op index v := by
  unfold place at h
  split at h
  · cases h
    rfl
  · cases h

end Draft

------------------------------------------------------------
-- Writing To Both Levels
------------------------------------------------------------

namespace Drafts

/-
  Each level is as it was, or written to because the
  predicate covers it.
-/
theorem place_cases
    (d : Drafts)
    (level : KeyLevel)
    (op : Comparator)
    (first second : Nat)
    (v : Value) :
    ((d.place level op first second v).drafts.one = d.one ∨
      level.coversOne = true ∧
        (d.place level op first second v).drafts.one =
          d.one.write op first v) ∧
    ((d.place level op first second v).drafts.two = d.two ∨
      level.coversTwo = true ∧
        (d.place level op first second v).drafts.two =
          d.two.write op second v) := by
  unfold place
  cases hOne : level.coversOne <;>
    cases hTwo : level.coversTwo
  · simp
  · cases hPlace : d.two.place op second v with
    | error failure => simp [hPlace]
    | ok two => simp [hPlace, Draft.place_eq_ok hPlace]
  · cases hPlace : d.one.place op first v with
    | error failure => simp
    | ok one => simp [Draft.place_eq_ok hPlace]
  · cases hPlaceOne : d.one.place op first v with
    | error failure => simp
    | ok one =>
        cases hPlaceTwo : d.two.place op second v with
        | error failure =>
            simp [hPlaceTwo, Draft.place_eq_ok hPlaceOne]
        | ok two =>
            simp [hPlaceTwo, Draft.place_eq_ok hPlaceOne,
              Draft.place_eq_ok hPlaceTwo]

/-
  What holds of both drafts, and of each that is written to
  because the predicate covers it, holds after placing.
-/
theorem place_keeps
    {d : Drafts}
    {op : Comparator}
    {first second : Nat}
    {v : Value}
    {P Q : Draft → Prop}
    (level : KeyLevel)
    (hOne : P d.one)
    (hTwo : Q d.two)
    (hWriteOne :
      level.coversOne = true → P (d.one.write op first v))
    (hWriteTwo :
      level.coversTwo = true → Q (d.two.write op second v)) :
    P (d.place level op first second v).drafts.one ∧
      Q (d.place level op first second v).drafts.two := by
  rcases d.place_cases level op first second v with
    ⟨hCasesOne, hCasesTwo⟩
  constructor
  · rcases hCasesOne with hSame | ⟨hCovers, hWrite⟩
    · rw [hSame]
      exact hOne
    · rw [hWrite]
      exact hWriteOne hCovers
  · rcases hCasesTwo with hSame | ⟨hCovers, hWrite⟩
    · rw [hSame]
      exact hTwo
    · rw [hWrite]
      exact hWriteTwo hCovers

/- Drafts with as many columns as the levels of a table. -/
structure Fits
    (d : Drafts)
    (s : Schema) : Prop where
  one : d.one.HasColumns (Statement.firstCount s)
  two : d.two.HasColumns (Statement.secondCount s)

/- Placing keeps the number of columns in both levels. -/
theorem Fits.place
    {d : Drafts}
    {s : Schema}
    (h : d.Fits s)
    (level : KeyLevel)
    (op : Comparator)
    (first second : Nat)
    (v : Value) :
    (d.place level op first second v).drafts.Fits s := by
  have hKept :=
    place_keeps
      (P := (·.HasColumns (Statement.firstCount s)))
      (Q := (·.HasColumns (Statement.secondCount s)))
      level h.one h.two
      (fun _ => h.one.write op first v)
      (fun _ => h.two.write op second v)
  exact ⟨hKept.1, hKept.2⟩

/- Write to the drafts of the levels that are asked for. -/
def write
    (d : Drafts)
    (one two : Bool)
    (op : Comparator)
    (first second : Nat)
    (v : Value) : Drafts :=
  ⟨if one then d.one.write op first v else d.one,
    if two then d.two.write op second v else d.two⟩

@[simp]
theorem write_false_false
    (d : Drafts)
    (op : Comparator)
    (first second : Nat)
    (v : Value) :
    d.write false false op first second v = d :=
  rfl

/-
  Placing writes to every level that is covered, unless a
  column does not exist.  A failure in level two comes after
  level one has been written to.
-/
theorem Fits.place_eq
    {d : Drafts}
    {s : Schema}
    (h : d.Fits s)
    (level : KeyLevel)
    (op : Comparator)
    (first second : Nat)
    (v : Value) :
    d.place level op first second v =
      if level.coversOne ∧ Statement.firstCount s ≤ first then
        ⟨d, 0,
          some (.noColumn first (Statement.firstCount s))⟩
      else if
          level.coversTwo ∧
            Statement.secondCount s ≤ second then
        ⟨d.write level.coversOne false op first second v,
          level.coversOne.toNat,
          some (.noColumn second (Statement.secondCount s))⟩
      else
        ⟨d.write level.coversOne level.coversTwo op first
            second v,
          level.coversOne.toNat + level.coversTwo.toNat,
          none⟩ := by
  have hOnePlace := h.one.place op first v
  have hTwoPlace := h.two.place op second v
  cases hOne : level.coversOne <;>
    cases hTwo : level.coversTwo
  · simp [Drafts.place, hOne, hTwo]
  · by_cases hSecond : second < Statement.secondCount s
    · have hNot := Nat.not_le.mpr hSecond
      simp [Drafts.place, hOne, hTwo, hTwoPlace, hSecond,
        hNot, Drafts.write]
    · have hOutside := Nat.le_of_not_lt hSecond
      simp [Drafts.place, hOne, hTwo, hTwoPlace, hSecond,
        hOutside]
  · by_cases hFirst : first < Statement.firstCount s
    · have hNot := Nat.not_le.mpr hFirst
      simp [Drafts.place, hOne, hTwo, hOnePlace, hFirst, hNot,
        Drafts.write]
    · have hOutside := Nat.le_of_not_lt hFirst
      simp [Drafts.place, hOne, hOnePlace, hFirst, hOutside]
  · by_cases hFirst : first < Statement.firstCount s
    · have hNot := Nat.not_le.mpr hFirst
      by_cases hSecond : second < Statement.secondCount s
      · have hNotSecond := Nat.not_le.mpr hSecond
        simp [Drafts.place, hOne, hTwo, hOnePlace, hTwoPlace,
          hFirst, hNot, hSecond, hNotSecond, Drafts.write]
      · have hOutside := Nat.le_of_not_lt hSecond
        simp [Drafts.place, hOne, hTwo, hOnePlace, hTwoPlace,
          hFirst, hNot, hSecond, hOutside, Drafts.write]
    · have hOutside := Nat.le_of_not_lt hFirst
      simp [Drafts.place, hOne, hOnePlace, hFirst, hOutside]

end Drafts

------------------------------------------------------------
-- The Fold
------------------------------------------------------------

namespace Statement

/-
  A run starts from drafts that nothing has been written to,
  if the values of a key can be asked for.
-/
theorem startDrafts_eq_ok_iff
    {s : Schema}
    {start : Drafts} :
    startDrafts s = .ok start ↔
      (firstCount s * 32 ≤ KeyRange.greatestSize ∧
        secondCount s * 32 ≤ KeyRange.greatestSize) ∧
      start =
        ⟨Draft.untouched (firstCount s),
          Draft.untouched (secondCount s)⟩ := by
  unfold startDrafts KeyRange.ofColumns Draft.bordersFor
    KeyRange.perColumn
  by_cases hOne :
      firstCount s * 32 ≤ KeyRange.greatestSize
  · by_cases hTwo :
        secondCount s * 32 ≤ KeyRange.greatestSize
    · have hBordersOne :
          firstCount s * 2 ≤ KeyRange.greatestSize := by
        omega
      have hBordersTwo :
          secondCount s * 2 ≤ KeyRange.greatestSize := by
        omega
      simp [hOne, hTwo, hBordersOne, hBordersTwo,
        Draft.untouched, eq_comm]
    · simp [hOne, hTwo]
  · simp [hOne]

/- The first drafts have a column for each of the schema's. -/
theorem fits_of_startDrafts
    {s : Schema}
    {start : Drafts}
    (h : startDrafts s = .ok start) :
    start.Fits s := by
  rcases startDrafts_eq_ok_iff.mp h with ⟨_, rfl⟩
  exact
    ⟨Draft.hasColumns_untouched _,
      Draft.hasColumns_untouched _⟩

/- The statement with other predicates. -/
def withPredicates
    (s : Statement)
    (predicates : List (Option Predicate)) : Statement :=
  { s with predicates? := some predicates }

/- The drafts after a predicate, whatever is reported. -/
def narrow
    (s : Statement)
    (ev : Evaluator)
    (d : Drafts)
    (p? : Option Predicate) : Drafts :=
  match p? with
  | none => d
  | some p =>
      match s.predicateValue ev p with
      | .error _ => d
      | .ok v =>
          (d.place p.level p.op p.first.toNat
            p.second.toNat v).drafts

@[simp]
theorem narrow_none
    (s : Statement)
    (ev : Evaluator)
    (d : Drafts) :
    s.narrow ev d none = d :=
  rfl

/- A predicate without a value changes nothing. -/
theorem narrow_of_error
    {s : Statement}
    {ev : Evaluator}
    {p : Predicate}
    {cause : Failure}
    (h : s.predicateValue ev p = .error cause)
    (d : Drafts) :
    s.narrow ev d (some p) = d := by
  simp [narrow, h]

/- A predicate with a value is placed. -/
theorem narrow_of_ok
    {s : Statement}
    {ev : Evaluator}
    {p : Predicate}
    {v : Value}
    (h : s.predicateValue ev p = .ok v)
    (d : Drafts) :
    s.narrow ev d (some p) =
      (d.place p.level p.op p.first.toNat
        p.second.toNat v).drafts := by
  simp [narrow, h]

/- What one predicate does is the same among any others. -/
@[simp]
theorem narrow_withPredicates
    (s : Statement)
    (predicates : List (Option Predicate))
    (ev : Evaluator) :
    (s.withPredicates predicates).narrow ev = s.narrow ev :=
  rfl

@[simp]
theorem schema_withPredicates
    (s : Statement)
    (predicates : List (Option Predicate)) :
    (s.withPredicates predicates).schema = s.schema :=
  rfl

/- Defaults do not depend on the predicates before them. -/
theorem placeDefaults_withPredicates
    (s : Statement)
    (predicates : List (Option Predicate))
    (ev : Evaluator)
    (i : Nat)
    (keys : List PartKey)
    (d : Drafts) :
    (s.withPredicates predicates).placeDefaults ev i keys d =
      s.placeDefaults ev i keys d := by
  induction keys generalizing i d with
  | nil => rfl
  | cons key rest ih =>
      have hKey :
          (s.withPredicates predicates).keyDefault? ev i key =
            s.keyDefault? ev i key := rfl
      simp only [placeDefaults, hKey, ih]

@[simp]
theorem applyDefaults_withPredicates
    (s : Statement)
    (predicates : List (Option Predicate))
    (ev : Evaluator)
    (d : Drafts) :
    (s.withPredicates predicates).applyDefaults ev d =
      s.applyDefaults ev d := by
  unfold applyDefaults
  rw [placeDefaults_withPredicates]
  rfl

/- A step: a predicate keeps the number of columns. -/
theorem fits_narrow
    {s : Statement}
    {d : Drafts}
    (ev : Evaluator)
    (h : d.Fits s.schema)
    (p? : Option Predicate) :
    (s.narrow ev d p?).Fits s.schema := by
  cases p? with
  | none => exact h
  | some p =>
      cases hValue : s.predicateValue ev p with
      | error cause =>
          rw [narrow_of_error hValue]
          exact h
      | ok v =>
          rw [narrow_of_ok hValue]
          exact h.place p.level p.op p.first.toNat
            p.second.toNat v

/- A run: predicates keep the number of columns. -/
theorem fits_foldl_narrow
    {s : Statement}
    {d : Drafts}
    (ev : Evaluator)
    (h : d.Fits s.schema)
    (predicates : List (Option Predicate)) :
    (predicates.foldl (s.narrow ev) d).Fits s.schema := by
  induction predicates generalizing d with
  | nil => exact h
  | cons p? rest ih => exact ih (fits_narrow ev h p?)

/-
  A predicate without a level covers neither draft, so that
  passing over it is the same as placing it.
-/
theorem drafts_placePredicate
    (s : Statement)
    (ev : Evaluator)
    (d : Drafts)
    (i : Nat)
    (p? : Option Predicate) :
    (s.placePredicate ev d i p?).drafts =
      s.narrow ev d p? := by
  cases p? with
  | none => rfl
  | some p =>
      cases hValue : s.predicateValue ev p with
      | error cause =>
          rw [narrow_of_error hValue]
          by_cases hZero : p.level = .zero
          · simp [placePredicate, hZero]
          · simp [placePredicate, hZero, hValue]
      | ok v =>
          rw [narrow_of_ok hValue]
          by_cases hZero : p.level = .zero
          · simp [placePredicate, hZero, Drafts.place,
              KeyLevel.coversOne, KeyLevel.coversTwo]
          · simp only [placePredicate, hZero, if_false,
              hValue]
            split <;> rfl

/- Placing predicates folds over them. -/
theorem drafts_placePredicates
    (s : Statement)
    (ev : Evaluator)
    (d : Drafts)
    (i : Nat)
    (predicates : List (Option Predicate)) :
    (s.placePredicates ev d i predicates).drafts =
      predicates.foldl (s.narrow ev) d := by
  induction predicates generalizing d i with
  | nil => rfl
  | cons p? rest ih =>
      simp only [placePredicates, List.foldl_cons]
      rw [ih, drafts_placePredicate]

/-
  No column is left to a default: the statement is no
  `INSERT`, or its keys have no default to use.
-/
def NeedsNoDefault
    (s : Statement) : Prop :=
  s.isInsert = true →
    ∀ i key, s.schema.keys[i]? = some key →
      s.schema.usableDefault? i key = none

/- Keys without usable defaults leave the drafts alone. -/
theorem placeDefaults_of_usableDefault?_eq_none
    {s : Statement}
    {ev : Evaluator}
    {i : Nat}
    {keys : List PartKey}
    (h :
      ∀ j key, keys[j]? = some key →
        s.schema.usableDefault? (i + j) key = none)
    (d : Drafts) :
    s.placeDefaults ev i keys d = .ok d := by
  induction keys generalizing i with
  | nil => rfl
  | cons key rest ih =>
      have hUsable : s.schema.usableDefault? i key = none :=
        h 0 key rfl
      have hKey : s.keyDefault? ev i key = .ok none := by
        simp [keyDefault?, hUsable]
      have hRest : s.placeDefaults ev (i + 1) rest d = .ok d := by
        apply ih
        intro j key' hKey'
        rw [Nat.add_right_comm]
        exact h (j + 1) key' hKey'
      simp [placeDefaults, hKey, hRest]

/- A statement that needs no default takes none. -/
theorem NeedsNoDefault.applyDefaults
    {s : Statement}
    (h : s.NeedsNoDefault)
    (ev : Evaluator)
    (d : Drafts) :
    s.applyDefaults ev d = .ok d := by
  unfold Statement.applyDefaults
  split
  · next hInsert =>
      apply placeDefaults_of_usableDefault?_eq_none
      intro j key hKey
      rw [Nat.zero_add]
      exact h hInsert j key hKey
  · rfl

/- The ranges of a statement by way of the fold. -/
theorem result_resolve
    {s : Statement}
    {predicates : List (Option Predicate)}
    (ev : Evaluator)
    (h : s.predicates? = some predicates) :
    (s.resolve ev).result = (do
      s.schema.validate
      let start ← startDrafts s.schema
      let d ←
        s.applyDefaults ev
          (predicates.foldl (s.narrow ev) start)
      .ok d.toRanges) := by
  cases hValid : s.schema.validate with
  | error cause => simp [resolve, h, hValid]
  | ok =>
      cases hStart : startDrafts s.schema with
      | error cause =>
          simp [resolve, h, hValid, resolveList, hStart]
      | ok start =>
          cases hDefaults :
              s.applyDefaults ev
                (predicates.foldl (s.narrow ev) start) with
          | error cause =>
              simp [resolve, h, hValid, resolveList, hStart,
                drafts_placePredicates, hDefaults]
          | ok d =>
              simp [resolve, h, hValid, resolveList, hStart,
                drafts_placePredicates, hDefaults]

/-
  Statements whose predicates leave the same drafts have the
  same result.
-/
theorem result_congr
    {s : Statement}
    {ev : Evaluator}
    {predicates others : List (Option Predicate)}
    (h :
      ∀ start : Drafts, start.Fits s.schema →
        predicates.foldl (s.narrow ev) start =
          others.foldl (s.narrow ev) start) :
    ((s.withPredicates predicates).resolve ev).result =
      ((s.withPredicates others).resolve ev).result := by
  rw [result_resolve ev rfl, result_resolve ev rfl]
  cases hStart : startDrafts s.schema with
  | error cause => simp [hStart]
  | ok start =>
      have hFold := h start (fits_of_startDrafts hStart)
      simp [hStart, hFold]

/-
  A statement that needs no default and has ranges without
  predicates has ranges with any predicates.
-/
theorem result_withPredicates
    {s : Statement}
    {ev : Evaluator}
    {ranges : Ranges}
    (hDefaults : s.NeedsNoDefault)
    (hResult :
      ((s.withPredicates []).resolve ev).result =
        .ok ranges) :
    ∃ start, startDrafts s.schema = .ok start ∧
      ∀ predicates,
        ((s.withPredicates predicates).resolve ev).result =
          .ok (predicates.foldl (s.narrow ev) start).toRanges := by
  rw [result_resolve ev rfl] at hResult
  rcases Steps.bind_eq_ok_iff.mp hResult with
    ⟨_, hValid, hRest⟩
  rcases Steps.bind_eq_ok_iff.mp hRest with
    ⟨start, hStart, _⟩
  refine ⟨start, hStart, ?_⟩
  intro predicates
  rw [schema_withPredicates] at hValid hStart
  rw [result_resolve ev rfl]
  simp [hValid, hStart, hDefaults.applyDefaults ev]

/- A statement that has ranges has gone through every step. -/
theorem exists_of_result_resolve_eq_ok
    {s : Statement}
    {ev : Evaluator}
    {ranges : Ranges}
    (h : (s.resolve ev).result = .ok ranges) :
    ∃ predicates start d,
      s.predicates? = some predicates ∧
        startDrafts s.schema = .ok start ∧
        s.applyDefaults ev
            (predicates.foldl (s.narrow ev) start) = .ok d ∧
        ranges = d.toRanges := by
  cases hPredicates : s.predicates? with
  | none => simp [resolve, hPredicates] at h
  | some predicates =>
      rw [result_resolve ev hPredicates] at h
      rcases Steps.bind_eq_ok_iff.mp h with ⟨_, _, hRest⟩
      rcases Steps.bind_eq_ok_iff.mp hRest with
        ⟨start, hStart, hRest⟩
      rcases Steps.bind_eq_ok_iff.mp hRest with
        ⟨d, hDefaults, hRanges⟩
      cases hRanges
      exact ⟨predicates, start, d, rfl, hStart, hDefaults, rfl⟩

end Statement

end PartitionPruning
