import PartitionPruning.Proofs.Statement.Drafting

/-
  When a resolution fails as a whole.

  A statement is resolved unless its keys are linked wrongly,
  its columns are too many, or a default that an `INSERT`
  relies on fails.  Its predicates have no say in this: they
  neither cause a failure nor keep one away.

  Key definitions include:
    * `Schema.misplaced?`
    * `Statement.defaultFault?`
    * `Statement.Obstructed`

  Main declarations:
    * `Statement.placeDefaults_eq_error_iff`
    * `Statement.result_eq_error_iff`
    * `Statement.result_alike`
-/

namespace PartitionPruning

------------------------------------------------------------
-- Faults Of Defaults
------------------------------------------------------------

/- The column of a key that its level does not have. -/
def Schema.misplaced?
    (s : Schema)
    (key : PartKey) : Option Failure :=
  let position := key.position.toNat
  if key.level.coversOne ∧ Statement.firstCount s ≤ position then
    some (.noColumn position (Statement.firstCount s))
  else if
      key.level.coversTwo ∧
        Statement.secondCount s ≤ position then
    some (.noColumn position (Statement.secondCount s))
  else none

/- Placing fails by where the key is, whatever is there. -/
theorem Drafts.Fits.failure?_place
    {d : Drafts}
    {s : Schema}
    (h : d.Fits s)
    (key : PartKey)
    (v : Value) :
    (d.place key.level .eq key.position.toNat
        key.position.toNat v).failure? =
      s.misplaced? key := by
  rw [h.place_eq]
  unfold Schema.misplaced?
  dsimp only
  split
  · rfl
  · split <;> rfl

namespace Statement

variable {s : Statement}
variable {ev : Evaluator}
variable {cause : Failure}

/-
  Why the default of a key fails: it has no value, or the
  key is in no column.
-/
def defaultFault?
    (s : Statement)
    (ev : Evaluator)
    (i : Nat)
    (key : PartKey) : Option Failure :=
  match s.keyDefault? ev i key with
  | .error cause => some cause
  | .ok none => none
  | .ok (some _) => s.schema.misplaced? key

/- Defaults fail with the first fault of a key. -/
theorem placeDefaults_eq_error_iff
    {d : Drafts}
    {i : Nat}
    {keys : List PartKey}
    (h : d.Fits s.schema) :
    s.placeDefaults ev i keys d = .error cause ↔
      Schema.firstFault? (s.defaultFault? ev) i keys =
        some cause := by
  induction keys generalizing i d with
  | nil => simp [placeDefaults, Schema.firstFault?]
  | cons key rest ih =>
      cases hDefault : s.keyDefault? ev i key with
      | error fault =>
          simp [placeDefaults, Schema.firstFault?,
            defaultFault?, hDefault]
      | ok v? =>
          cases v? with
          | none =>
              simp only [placeDefaults, Schema.firstFault?,
                defaultFault?, hDefault, Steps.ok_bind,
                Option.none_or]
              exact ih h
          | some v =>
              -- The drafts have their columns from the schema,
              -- so the failure is the same for all of them.
              have hPlaced := h.failure?_place key v
              have hFits :=
                h.place key.level .eq key.position.toNat
                  key.position.toNat v
              simp only [placeDefaults, Schema.firstFault?,
                defaultFault?, hDefault, Steps.ok_bind,
                hPlaced]
              cases s.schema.misplaced? key with
              | some fault => simp
              | none => simpa using ih hFits

------------------------------------------------------------
-- Whole Statements
------------------------------------------------------------

/- What keeps a statement from being resolved. -/
inductive Obstructed
    (s : Statement)
    (ev : Evaluator) : Failure → Prop where
  | links
      {cause : Failure}
      (invalid : s.schema.validate = .error cause) :
      Obstructed s ev cause
  | columns
      {cause : Failure}
      (valid : s.schema.validate = .ok ())
      (tooMany : startDrafts s.schema = .error cause) :
      Obstructed s ev cause
  | default
      {start : Drafts}
      {cause : Failure}
      (valid : s.schema.validate = .ok ())
      (fewEnough : startDrafts s.schema = .ok start)
      (insert : s.isInsert = true)
      (fault :
        Schema.firstFault? (s.defaultFault? ev) 0
          s.schema.keys = some cause) :
      Obstructed s ev cause

/-
  Defaults fail in an `INSERT` only, with the first fault
  among the keys.
-/
theorem applyDefaults_eq_error_iff
    {d : Drafts}
    (h : d.Fits s.schema) :
    s.applyDefaults ev d = .error cause ↔
      s.isInsert = true ∧
        Schema.firstFault? (s.defaultFault? ev) 0
            s.schema.keys =
          some cause := by
  unfold applyDefaults
  split
  · next hInsert =>
      rw [placeDefaults_eq_error_iff h]
      simp [hInsert]
  · next hPlain => simp [hPlain]

/-
  A statement about whose predicates anything is known fails
  exactly with what obstructs it.
-/
theorem result_eq_error_iff
    {predicates : List (Option Predicate)}
    (h : s.predicates? = some predicates) :
    (s.resolve ev).result = .error cause ↔
      s.Obstructed ev cause := by
  rw [result_resolve ev h, Steps.bind_eq_error_iff]
  constructor
  · rintro (hInvalid | ⟨_, hValid, hRest⟩)
    · exact .links hInvalid
    · rcases Steps.bind_eq_error_iff.mp hRest with
        hTooMany | ⟨start, hStart, hRest⟩
      · exact .columns hValid hTooMany
      · have hFits :=
          fits_foldl_narrow ev (fits_of_startDrafts hStart)
            predicates
        rcases Steps.bind_eq_error_iff.mp hRest with
          hDefaults | ⟨_, _, hDone⟩
        · rcases (applyDefaults_eq_error_iff hFits).mp
              hDefaults with
            ⟨hInsert, hFault⟩
          exact .default hValid hStart hInsert hFault
        · cases hDone
  · intro hObstructed
    cases hObstructed with
    | links invalid => exact .inl invalid
    | columns valid tooMany =>
        refine .inr ⟨(), valid, ?_⟩
        exact Steps.bind_eq_error_iff.mpr (.inl tooMany)
    | @default start _ valid fewEnough insert fault =>
        have hFits :=
          fits_foldl_narrow ev (fits_of_startDrafts fewEnough)
            predicates
        have hDefaults :=
          (applyDefaults_eq_error_iff hFits).mpr
            ⟨insert, fault⟩
        refine .inr ⟨(), valid, ?_⟩
        refine Steps.bind_eq_error_iff.mpr ?_
        refine .inr ⟨start, fewEnough, ?_⟩
        exact Steps.bind_eq_error_iff.mpr (.inl hDefaults)

theorem Obstructed.congr
    {t : Statement}
    (h : s.Obstructed ev cause)
    (hSchema : s.schema = t.schema)
    (hInsert : s.isInsert = t.isInsert)
    (hFault : s.defaultFault? ev = t.defaultFault? ev) :
    t.Obstructed ev cause := by
  cases h with
  | links invalid =>
      rw [hSchema] at invalid
      exact .links invalid
  | columns valid tooMany =>
      rw [hSchema] at valid tooMany
      exact .columns valid tooMany
  | default valid fewEnough insert fault =>
      rw [hSchema] at valid fewEnough
      rw [hInsert] at insert
      rw [hFault, hSchema] at fault
      exact .default valid fewEnough insert fault

/- Obstacles are the same for all predicates. -/
theorem obstructed_withPredicates_iff
    (predicates : List (Option Predicate)) :
    (s.withPredicates predicates).Obstructed ev cause ↔
      s.Obstructed ev cause :=
  ⟨fun h => h.congr rfl rfl rfl, fun h => h.congr rfl rfl rfl⟩

/-
  Whether a statement is resolved, and how it fails, does
  not depend on its predicates.  With any of them it fails
  exactly with what obstructs it, and it fails if nothing is
  known about them.
-/
theorem result_alike
    (s : Statement)
    (ev : Evaluator) :
    (∀ ps qs,
      (∃ ranges others,
        ((s.withPredicates ps).resolve ev).result =
            .ok ranges ∧
          ((s.withPredicates qs).resolve ev).result =
            .ok others) ∨
        ∃ cause,
          ((s.withPredicates ps).resolve ev).result =
              .error cause ∧
            ((s.withPredicates qs).resolve ev).result =
              .error cause) ∧
      (∀ ps cause,
        ((s.withPredicates ps).resolve ev).result =
            .error cause ↔
          s.Obstructed ev cause) ∧
      ({ s with predicates? := none }.resolve ev).result =
        .error .noRelations := by
  have hCause (ps : List (Option Predicate)) (cause : Failure) :
      ((s.withPredicates ps).resolve ev).result =
          .error cause ↔
        s.Obstructed ev cause := by
    rw [result_eq_error_iff rfl, obstructed_withPredicates_iff]
  refine ⟨?_, hCause, rfl⟩
  intro ps qs
  cases hFirst : ((s.withPredicates ps).resolve ev).result with
  | error cause =>
      right
      have hObstructed := (hCause ps cause).mp hFirst
      exact ⟨cause, rfl, (hCause qs cause).mpr hObstructed⟩
  | ok ranges =>
      left
      cases hSecond :
          ((s.withPredicates qs).resolve ev).result with
      | ok others => exact ⟨ranges, others, rfl, rfl⟩
      | error cause =>
          have hObstructed := (hCause qs cause).mp hSecond
          rw [(hCause ps cause).mpr hObstructed] at hFirst
          cases hFirst

end Statement

end PartitionPruning
