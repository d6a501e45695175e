import PartitionPruning.Proofs.Statement.DefaultPins
import PartitionPruning.Proofs.Statement.Links

/-
  Generating functions that are found.

  Over a valid schema every source through which a value is
  derived has a generating function.  Nothing else that a
  statement goes through looks for one, so that no
  resolution fails for a function that is missing, or tells
  of a predicate that does.

  Key definitions include:
    * `FindsFunction`
    * `Notice.cause?`
    * `Resolution.Reports`

  Main declarations:
    * `Statement.findsFunction_predicateValue`
    * `Statement.findsFunction_placeDefaults`
    * `Statement.derivations_of_validate`
-/

namespace PartitionPruning

------------------------------------------------------------
-- Functions That Are Found
------------------------------------------------------------

/- A result that no missing generating function stops. -/
def FindsFunction
    {α : Type}
    (result : Except Failure α) : Prop :=
  ∀ source, result ≠ .error (.noGenerator source)

section

variable {α β : Type}

theorem findsFunction_ok
    (a : α) :
    FindsFunction (.ok a) := by
  intro source h
  cases h

theorem findsFunction_error
    {cause : Failure}
    (h : ∀ source, cause ≠ .noGenerator source) :
    FindsFunction (α := α) (.error cause) := by
  intro source hSame
  exact h source (Except.error.inj hSame)

/- Steps that find their functions do so one after another. -/
theorem FindsFunction.bind
    {step : Except Failure α}
    {next : α → Except Failure β}
    (h : FindsFunction step)
    (hNext : ∀ a, FindsFunction (next a)) :
    FindsFunction (step >>= next) := by
  intro source hError
  rcases Steps.bind_eq_error_iff.mp hError with
    hStep | ⟨a, _, hRest⟩
  · exact h source hStep
  · exact hNext a source hRest

/- Packets know nothing of generating functions. -/
theorem findsFunction_ofPacket
    (result : Except WireError α) :
    FindsFunction (Binding.ofPacket result) := by
  cases result with
  | ok a => exact findsFunction_ok a
  | error cause => exact findsFunction_error (by simp)

end

------------------------------------------------------------
-- Placing
------------------------------------------------------------

/-
  Placing fails for a column that is not there, and for
  nothing else.
-/
theorem Draft.findsFunction_place
    (d : Draft)
    (op : Comparator)
    (index : Nat)
    (v : Value) :
    FindsFunction (d.place op index v) := by
  unfold Draft.place
  split
  · exact findsFunction_ok _
  · exact findsFunction_error (by simp)

/- What stops a placing is what stops it in one level. -/
theorem Drafts.place_eq_error_of_failure?
    {d : Drafts}
    {level : KeyLevel}
    {op : Comparator}
    {first second : Nat}
    {v : Value}
    {cause : Failure}
    (h :
      (d.place level op first second v).failure? = some cause) :
    d.one.place op first v = .error cause ∨
      d.two.place op second v = .error cause := by
  unfold place at h
  cases hOne :
      (if level.coversOne then d.one.place op first v
        else .ok d.one) with
  | error failure =>
      left
      simp only [hOne, Option.some.injEq] at h
      subst h
      split at hOne
      · exact hOne
      · cases hOne
  | ok one =>
      right
      simp only [hOne] at h
      split at h
      · cases hTwo : d.two.place op second v with
        | error failure => simpa [hTwo] using h
        | ok two => simp [hTwo] at h
      · cases h

/- Nor does placing in two levels miss a function. -/
theorem Drafts.failure?_place_ne
    (d : Drafts)
    (level : KeyLevel)
    (op : Comparator)
    (first second : Nat)
    (v : Value)
    (source : String) :
    (d.place level op first second v).failure? ≠
      some (.noGenerator source) := by
  intro hFailure
  rcases place_eq_error_of_failure? hFailure with hOne | hTwo
  · exact d.one.findsFunction_place op first v source hOne
  · exact d.two.findsFunction_place op second v source hTwo

------------------------------------------------------------
-- Operands
------------------------------------------------------------

namespace Operand

mutual

/- Converting an operand looks for functions by name only. -/
theorem findsFunction_convert
    (o : Operand) :
    FindsFunction o.convert := by
  cases o with
  | int v => exact findsFunction_ok _
  | text bytes => exact findsFunction_ok _
  | placeholder index => exact findsFunction_error (by simp)
  | column name => exact findsFunction_error (by simp)
  | call name args =>
      rw [convert]
      split
      · exact findsFunction_error (by simp)
      · exact
          (findsFunction_convertArgs args).bind
            fun es => findsFunction_ok _

theorem findsFunction_convertArgs
    (os : List Operand) :
    FindsFunction (convertArgs os) := by
  cases os with
  | nil => exact findsFunction_ok _
  | cons o os =>
      rw [convertArgs]
      apply (findsFunction_convert o).bind
      intro e
      exact
        (findsFunction_convertArgs os).bind
          fun es => findsFunction_ok _

end

/- Nesting that is too deep is an error of its own. -/
theorem findsFunction_toExpr
    (limit : Nat)
    (o : Operand) :
    FindsFunction (o.toExpr limit) := by
  unfold toExpr
  split
  · exact findsFunction_error (by simp)
  · exact o.findsFunction_convert

end Operand

------------------------------------------------------------
-- Placeholders
------------------------------------------------------------

namespace Binding

theorem findsFunction_executeParam
    (prepared? : Option StatementEntry)
    (payload : List UInt8)
    (index : Nat) :
    FindsFunction (executeParam prepared? payload index) := by
  unfold executeParam
  split
  · exact findsFunction_error (by simp)
  · split
    · exact findsFunction_error (by simp)
    · exact findsFunction_ofPacket _

/- Long data fails for the index or for its bytes. -/
theorem findsFunction_longDataParam
    (prepared? : Option StatementEntry)
    (payload : List UInt8)
    (index : Nat) :
    FindsFunction (longDataParam prepared? payload index) := by
  unfold longDataParam
  cases hBeyond : beyond prepared? index with
  | none =>
      apply (findsFunction_ofPacket _).bind
      rintro ⟨carried, bytes⟩
      dsimp only
      split
      · exact findsFunction_ok _
      · exact findsFunction_error (by simp)
  | some cause =>
      apply findsFunction_error
      rintro source rfl
      unfold beyond at hBeyond
      split at hBeyond
      · cases hBeyond
      · split at hBeyond <;> cases hBeyond

theorem findsFunction_variableParam
    (session : Session)
    (names : List String)
    (index : Nat) :
    FindsFunction (variableParam session names index) := by
  unfold variableParam
  split
  · exact findsFunction_error (by simp)
  · unfold Session.value
    split
    · exact findsFunction_ok _
    · exact findsFunction_error (by simp)

end Binding

namespace Statement

variable {s : Statement}

/-
  Every command has a way to bind parameters that asks for
  no key.
-/
theorem findsFunction_param
    (s : Statement)
    (index : Nat) :
    FindsFunction (s.param index) := by
  unfold param
  split
  · exact Binding.findsFunction_executeParam _ _ _
  · exact findsFunction_error (by simp)
  · exact findsFunction_ofPacket _
  · exact Binding.findsFunction_longDataParam _ _ _
  · split
    · exact Binding.findsFunction_variableParam _ _ _
    · exact findsFunction_error (by simp)

/- Arguments of a call are bound without a key too. -/
theorem findsFunction_bind
    (s : Statement)
    (index : Nat) :
    FindsFunction (s.bind index) := by
  unfold Statement.bind
  split
  · split
    · exact findsFunction_error (by simp)
    · exact findsFunction_ok _
    · exact findsFunction_ok _
    · exact s.findsFunction_param _
  · exact s.findsFunction_param index

------------------------------------------------------------
-- Values
------------------------------------------------------------

/- An evaluation fails as one, or for having no value. -/
theorem findsFunction_evaluate
    (s : Statement)
    (ev : Evaluator)
    (e : Expr) :
    FindsFunction (s.evaluate ev e) := by
  unfold evaluate
  split
  · exact findsFunction_error (by simp)
  · exact findsFunction_error (by simp)
  · exact findsFunction_ok _

/-
  An operand has its value before anything is derived from
  it.
-/
theorem findsFunction_operandValue
    (s : Statement)
    (ev : Evaluator)
    (o : Operand) :
    FindsFunction (s.operandValue ev o) := by
  unfold operandValue
  split
  · exact findsFunction_ok _
  · exact findsFunction_ok _
  · exact s.findsFunction_bind _
  · exact findsFunction_error (by simp)
  · exact
      (Operand.findsFunction_toExpr _ _).bind
        fun e => s.findsFunction_evaluate ev e

/-
  A default that is text is a number, a string or an
  expression, of which the last alone is evaluated.
-/
theorem findsFunction_textDefault
    (s : Statement)
    (ev : Evaluator)
    (text : List UInt8) :
    FindsFunction (s.textDefault ev text) := by
  unfold textDefault
  split
  · exact findsFunction_ok _
  · split
    · exact findsFunction_ok _
    · split
      · exact findsFunction_ok _
      · split
        · exact findsFunction_ok _
        · split
          · exact findsFunction_error (by simp)
          · split
            · exact findsFunction_error (by simp)
            · exact s.findsFunction_evaluate ev _

theorem findsFunction_defaultValue
    (s : Statement)
    (ev : Evaluator)
    (stored : List UInt8) :
    FindsFunction (s.defaultValue ev stored) := by
  unfold defaultValue
  split
  · exact findsFunction_ok _
  · split
    · exact findsFunction_error (by simp)
    · dsimp only
      split
      · exact
          (s.findsFunction_textDefault ev _).bind
            fun v => findsFunction_ok _
      · exact findsFunction_ok _

------------------------------------------------------------
-- Valid Links
------------------------------------------------------------

/- No derivation for a predicate misses its function. -/
theorem findsFunction_derived
    (hLinked : s.schema.IsLinked)
    (p : Predicate)
    (v : Value) :
    FindsFunction (s.derived p v) := by
  intro source hError
  cases hKey : s.schema.keys[p.key.toNat]? with
  | none =>
      unfold derived at hError
      rw [hKey] at hError
      cases hError
  | some key =>
      have hCause :=
        (derived_eq_error_iff hLinked hKey v _).mp hError
      exact hCause.ne_noGenerator source rfl

/- The value of a predicate, derived or not. -/
theorem findsFunction_predicateValue
    (hLinked : s.schema.IsLinked)
    (ev : Evaluator)
    (p : Predicate) :
    FindsFunction (s.predicateValue ev p) := by
  unfold predicateValue
  apply (s.findsFunction_operandValue ev p.operand).bind
  intro v
  dsimp only
  split
  · exact
      (findsFunction_derived hLinked p v).bind
        fun w => findsFunction_ok _
  · exact findsFunction_ok _

/- No derivation of a default misses its function. -/
theorem findsFunction_keyDefault?
    (hLinked : s.schema.IsLinked)
    (ev : Evaluator)
    (i : Nat)
    (key : PartKey) :
    FindsFunction (s.keyDefault? ev i key) := by
  unfold keyDefault?
  cases hUsable : s.schema.usableDefault? i key with
  | none => exact findsFunction_ok none
  | some usable =>
      apply (s.findsFunction_defaultValue ev _).bind
      intro v
      have hCanUse :=
        Schema.usableDefault?_eq_some_iff.mp hUsable
      cases hCanUse with
      | own => exact findsFunction_ok _
      | @ofSource before after source _ _ _ _ hKeys _ hFeeds =>
          -- The default comes from a source that was found
          -- among the keys, where its link is valid.
          rcases Option.map_eq_some_iff.mp hFeeds with
            ⟨target, hTarget, _⟩
          have hMember : source ∈ s.schema.keys := by
            rw [hKeys]
            simp
          rcases hLinked.generator source hMember target
              hTarget with
            ⟨g, hFunction⟩
          refine FindsFunction.bind ?_ fun w => findsFunction_ok _
          intro name hError
          have hCause :=
            (PartKey.derive_eq_error_iff hFunction _ v _).mp
              hError
          cases hCause.2

/-
  A run over the keys: no default misses the function that
  it is derived by.
-/
theorem findsFunction_placeDefaults
    (hLinked : s.schema.IsLinked)
    (ev : Evaluator)
    (i : Nat)
    (keys : List PartKey)
    (d : Drafts) :
    FindsFunction (s.placeDefaults ev i keys d) := by
  induction keys generalizing i d with
  | nil => exact findsFunction_ok d
  | cons key rest ih =>
      rw [placeDefaults]
      apply (findsFunction_keyDefault? hLinked ev i key).bind
      intro v?
      split
      · exact ih (i + 1) d
      · dsimp only
        split
        · next cause hFailure =>
            apply findsFunction_error
            rintro source rfl
            exact
              Drafts.failure?_place_ne _ _ _ _ _ _ source
                hFailure
        · exact ih (i + 1) _

end Statement

------------------------------------------------------------
-- Reports
------------------------------------------------------------

/- The failure that a notice tells of. -/
def Notice.cause? : Notice → Option Failure
  | keysInconsistent cause => some cause
  | predicateUnbound _ cause => some cause
  | predicateFailed _ cause => some cause
  | defaultsFailed cause => some cause
  | relationsMissing => none
  | predicateMissing _ => none
  | predicateWithoutLevel _ => none
  | comparatorUnused => none

/- A resolution ends with a failure, or tells of it. -/
def Resolution.Reports
    (r : Resolution)
    (cause : Failure) : Prop :=
  r.result = .error cause ∨
    ∃ n ∈ r.notices, n.cause? = some cause

namespace Statement

variable {s : Statement}

/- A notice of a failed predicate tells of the failure. -/
theorem cause?_failureNotice
    (s : Statement)
    (i : Nat)
    (cause : Failure) :
    (s.failureNotice i cause).cause? = some cause := by
  unfold failureNotice
  split <;> rfl

/- A notice of a comparator tells of no failure. -/
theorem cause?_comparatorNotices
    {op : Comparator}
    {placed : Nat}
    {n : Notice}
    (h : n ∈ comparatorNotices op placed) :
    n.cause? = none := by
  unfold comparatorNotices at h
  split at h
  · cases List.eq_of_mem_replicate h
    rfl
  · cases h

/- One predicate tells of no missing function. -/
theorem cause?_placePredicate_ne
    (hLinked : s.schema.IsLinked)
    (ev : Evaluator)
    (d : Drafts)
    (i : Nat)
    (p? : Option Predicate)
    (source : String) :
    ∀ n ∈ (s.placePredicate ev d i p?).notices,
      n.cause? ≠ some (.noGenerator source) := by
  intro n hNotice hCause
  cases p? with
  | none =>
      cases List.mem_singleton.mp hNotice
      cases hCause
  | some p =>
      simp only [placePredicate] at hNotice
      split at hNotice
      · cases List.mem_singleton.mp hNotice
        cases hCause
      · split at hNotice
        · next cause hValue =>
            cases List.mem_singleton.mp hNotice
            rw [cause?_failureNotice] at hCause
            cases hCause
            exact
              findsFunction_predicateValue hLinked ev p source
                hValue
        · split at hNotice
          · rw [cause?_comparatorNotices hNotice] at hCause
            cases hCause
          · next cause hFailure =>
              rcases List.mem_append.mp hNotice with
                hOther | hLast
              · rw [cause?_comparatorNotices hOther] at hCause
                cases hCause
              · cases List.mem_singleton.mp hLast
                rw [cause?_failureNotice] at hCause
                cases hCause
                exact
                  Drafts.failure?_place_ne _ _ _ _ _ _ source
                    hFailure

/- A run over the predicates tells of none either. -/
theorem cause?_placePredicates_ne
    (hLinked : s.schema.IsLinked)
    (ev : Evaluator)
    (d : Drafts)
    (i : Nat)
    (predicates : List (Option Predicate))
    (source : String) :
    ∀ n ∈ (s.placePredicates ev d i predicates).notices,
      n.cause? ≠ some (.noGenerator source) := by
  induction predicates generalizing d i with
  | nil =>
      intro n hNotice
      cases hNotice
  | cons p? rest ih =>
      intro n hNotice
      rw [placePredicates] at hNotice
      rcases List.mem_append.mp hNotice with hFirst | hOthers
      · exact
          cause?_placePredicate_ne hLinked ev d i p? source n
            hFirst
      · exact ih _ _ n hOthers

/- Columns are counted before any key is looked at. -/
theorem findsFunction_startDrafts
    (schema : Schema) :
    FindsFunction (startDrafts schema) := by
  have hColumn {α : Type} (itemSize count : Nat) (a : α) :
      FindsFunction (KeyRange.perColumn itemSize count a) := by
    unfold KeyRange.perColumn
    split
    · exact findsFunction_ok _
    · exact findsFunction_error (by simp)
  have hRange (count : Nat) :
      FindsFunction (KeyRange.ofColumns count) :=
    (hColumn 32 count _).bind fun bounds => findsFunction_ok _
  unfold startDrafts
  apply (hRange _).bind
  intro one
  apply (hRange _).bind
  intro two
  apply (hColumn 2 _ _).bind
  intro bordersOne
  exact
    (hColumn 2 _ _).bind fun bordersTwo => findsFunction_ok _

theorem findsFunction_applyDefaults
    (hLinked : s.schema.IsLinked)
    (ev : Evaluator)
    (d : Drafts) :
    FindsFunction (s.applyDefaults ev d) := by
  unfold applyDefaults
  split
  · exact findsFunction_placeDefaults hLinked ev 0 _ d
  · exact findsFunction_ok d

/-
  A resolution neither ends with a missing function nor
  tells of one: not at its start, not in its predicates,
  and not in its defaults.
-/
theorem not_reports_resolveList
    (hLinked : s.schema.IsLinked)
    (ev : Evaluator)
    (predicates : List (Option Predicate))
    (source : String) :
    ¬ (s.resolveList ev predicates).Reports
      (.noGenerator source) := by
  unfold resolveList
  split
  · next cause hStart =>
      rintro (hResult | ⟨n, hNotice, _⟩)
      · cases hResult
        exact findsFunction_startDrafts _ source hStart
      · cases hNotice
  · next start hStart =>
      have hTold :=
        cause?_placePredicates_ne hLinked ev start 0 predicates
          source
      dsimp only
      split
      · next cause hDefaults =>
          have hNe : cause ≠ .noGenerator source := by
            rintro rfl
            exact
              findsFunction_applyDefaults hLinked ev _ source
                hDefaults
          rintro (hResult | ⟨n, hNotice, hCause⟩)
          · exact hNe (Except.error.inj hResult)
          · rcases List.mem_append.mp hNotice with
              hOther | hLast
            · exact hTold n hOther hCause
            · cases List.mem_singleton.mp hLast
              exact hNe (Option.some.inj hCause)
      · rintro (hResult | ⟨n, hNotice, hCause⟩)
        · cases hResult
        · exact hTold n hNotice hCause

/-
  Over a valid schema no value is derived through a source
  without a function, for no predicate and no default, so
  that no resolution fails for it or tells of it.  For a
  predicate on one of the keys nothing is derived exactly
  where the generated key is on another level, or where its
  function is not supported.
-/
theorem derivations_of_validate
    (hValid : s.schema.validate = .ok ())
    (ev : Evaluator) :
    (∀ p key v cause,
      s.schema.keys[p.key.toNat]? = some key →
        (s.derived p v = .error cause ↔
          s.schema.Underivable p cause) ∧
        (s.derived p v = .error cause →
          cause.kind = .entryNotFound ∨
            cause.kind = .unsupportedFunction)) ∧
      (∀ p v source,
        s.derived p v ≠ .error (.noGenerator source)) ∧
      (∀ d source,
        s.placeDefaults ev 0 s.schema.keys d ≠
          .error (.noGenerator source)) ∧
      ∀ predicates source,
        ¬ ((s.withPredicates predicates).resolve ev).Reports
          (.noGenerator source) := by
  have hLinked := Schema.validate_eq_ok_iff.mp hValid
  refine ⟨?_, findsFunction_derived hLinked, ?_, ?_⟩
  · intro p key v cause hKey
    have hCause := derived_eq_error_iff hLinked hKey v cause
    exact ⟨hCause, fun hError => (hCause.mp hError).kind⟩
  · exact findsFunction_placeDefaults hLinked ev 0 _
  · intro predicates source
    have hResolve :
        (s.withPredicates predicates).resolve ev =
          (s.withPredicates predicates).resolveList ev
            predicates := by
      simp [resolve, withPredicates, hValid]
    rw [hResolve]
    exact
      not_reports_resolveList (s := s.withPredicates predicates)
        hLinked ev predicates source

/-
  An `INSERT` that leaves everything but the name to its
  default.  The name and the alias both feed the code, which
  in turn feeds the letter, as the letter does itself.
-/
def letterInsert : Statement where
  config := default
  predicates? := some []
  schema :=
    ⟨.two, ["name", "alias", "code"], ["letter"],
      [⟨"name", .one, 0, false, some 2, some 0,
          some (.substring "name" (some 1) (some 4)), [], true⟩,
        ⟨"alias", .one, 1, false, some 2, some 1,
          some ⟨.hash, [.column "alias"]⟩,
          [1, 9, 0, 0, 0, 0, 0, 0, 0], false⟩,
        ⟨"code", .one, 2, true, some 3, none,
          some (.substring "code" (some 1) (some 1)), [],
          false⟩,
        ⟨"letter", .two, 0, true, some 3, none,
          some (.substring "letter" (some 1) none), [],
          false⟩],
      .mysql⟩
  session := Session.ofCollation ⟨46⟩
  request := default
  prepared? := none
  fields := default
  isInsert := true

/-
  A name is no letter, and no code is derived from an alias.
  The default of the alias fails for the same reason.
-/
theorem derivations_letterInsert :
    letterInsert.schema.validate = .ok () ∧
      letterInsert.derived
          ⟨0, 0, 0, .two, .eq, .text [0x61], false⟩
          (.text [0x61] default) =
        .error (.noGeneratedKey 2 "name") ∧
      letterInsert.derived
          ⟨1, 1, 0, .one, .eq, .text [0x61], false⟩
          (.text [0x61] default) =
        .error (.unsupportedGenerator .hash) ∧
      (letterInsert.resolve .builtin).result =
        .error (.unsupportedGenerator .hash) ∧
      ∀ source,
        ¬ (letterInsert.resolve .builtin).Reports
          (.noGenerator source) := by
  have hValid : letterInsert.schema.validate = .ok () := rfl
  rcases derivations_of_validate hValid .builtin with
    ⟨hDerived, _, _, hReports⟩
  refine ⟨hValid, ?_, ?_, rfl, hReports []⟩
  · have hLeads :
        letterInsert.schema.LeadsTo
          ⟨0, 0, 0, .two, .eq, .text [0x61], false⟩
          letterInsert.schema.keys[0] 2
          letterInsert.schema.keys[2] :=
      ⟨rfl, rfl, rfl, rfl⟩
    exact
      (hDerived _ _ _ _ hLeads.isKey).1.mpr
        (.otherLevel hLeads (by decide))
  · have hLeads :
        letterInsert.schema.LeadsTo
          ⟨1, 1, 0, .one, .eq, .text [0x61], false⟩
          letterInsert.schema.keys[1] 2
          letterInsert.schema.keys[2] :=
      ⟨rfl, rfl, rfl, rfl⟩
    exact
      (hDerived _ _ _ _ hLeads.isKey).1.mpr
        (.otherFunction hLeads rfl rfl (by decide))

end Statement

end PartitionPruning
