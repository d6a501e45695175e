import PartitionPruning.Proofs.Range.Admission
import PartitionPruning.Proofs.Schema.Carrying

/-
  Bounds of a generated column from predicates on its source.

  A table is partitioned by one column, which is a slice of
  its source.  A predicate on the source bounds the column,
  and keeps every source that it holds for where the
  comparison carries over to the slice.

  Key definitions include:
    * `Schema.Derives`
    * `Predicate.onSource`
    * `Statement.KeepsSources`

  Main declarations:
    * `Statement.result_onSource`
    * `Statement.keepsSources_onSource`
-/

namespace PartitionPruning

------------------------------------------------------------
-- One Bounded Column
------------------------------------------------------------

/- A column that a single comparison with a text bounds. -/
theorem KeyRange.admits_singleton_iff
    (op : Comparator)
    (w g : List UInt8)
    (c d : Collation) :
    (⟨[Bound.unset.set op (.text w c)],
        Border.exclusive.close op⟩ : KeyRange).Admits
          Value.bytewise [.text g d] ↔
      op.Orders g w := by
  rw [← op.holds_text_iff g w d c]
  cases op <;>
    simp [KeyRange.Admits, KeyRange.AdmitsColumns,
      Bound.isExact, Bound.set, Bound.unset, Bound.Admits,
      Border.close, Border.exclusive,
      Comparator.boundsBelow, Comparator.boundsAbove,
      Comparator.closesBelow, Comparator.closesAbove,
      Comparator.Holds, and_comm]

/- Writing a column once, and cutting the draft back. -/
theorem Draft.normalise_write_untouched
    (op : Comparator)
    (v : Value) :
    ((Draft.untouched 1).write op 0 v).normalise =
      ⟨[Bound.unset.set op v], Border.exclusive.close op⟩ := by
  have hWrite :
      (Draft.untouched 1).write op 0 v =
        ⟨⟨[Bound.unset.set op v], Border.exclusive⟩,
          [Border.exclusive.close op]⟩ :=
    rfl
  rw [hWrite]
  unfold Draft.normalise Draft.cut
  split
  · rfl
  · rfl

------------------------------------------------------------
-- Tables With A Sliced Column
------------------------------------------------------------

/-
  The table is partitioned by one column, generated from the
  key at an index by taking a slice.
-/
structure Schema.Derives
    (s : Schema)
    (source : UInt64)
    (slice : Slice) : Prop where
  dialect : s.dialect = slice.dialect
  valid : s.validate = .ok ()
  level : s.level = .one
  columns : s.columns.length = 1
  link :
    ∃ key generated target column,
      s.keys[source.toNat]? = some key ∧
        key.isGenerated = false ∧
        key.target? = some target ∧
        key.generator? = some (slice.generator column) ∧
        s.keys[target.toNat]? = some generated ∧
        generated.isGenerated = true ∧
        generated.level = .one

/- A schema that derives a column has a generated key. -/
theorem Schema.Derives.hasGeneratedKey
    {s : Schema}
    {source : UInt64}
    {slice : Slice}
    (h : s.Derives source slice) :
    s.hasGeneratedKey = true := by
  rcases h.link with
    ⟨_, generated, _, _, _, _, _, _, hTarget, hGenerated, _⟩
  unfold Schema.hasGeneratedKey
  rw [List.any_eq_true]
  exact ⟨generated, List.mem_of_getElem? hTarget, hGenerated⟩

/- A comparison of a source with a text. -/
def Predicate.onSource
    (source second : UInt64)
    (op : Comparator)
    (v : List UInt8) : Predicate :=
  ⟨source, 0, second, .one, op, .text v, false⟩

namespace Statement

variable {s : Statement}
variable {source : UInt64}
variable {slice : Slice}

/-
  A predicate on the source is compared as the bound that
  its operand gives.
-/
theorem predicateValue_onSource
    (hDerives : s.schema.Derives source slice)
    (ev : Evaluator)
    (second : UInt64)
    (op : Comparator)
    (v : List UInt8) :
    s.predicateValue ev (.onSource source second op v) =
      .ok (.text (slice.bound v) s.session.collation) := by
  rcases hDerives.link with
    ⟨key, generated, target, column, hKey, hPlain, hLink,
      hGenerator, hTarget, hGenerated, hLevel⟩
  have hDerived :
      key.derive s.schema.dialect
          (.text v s.config.collation) =
        .ok (.text (slice.bound v) s.config.collation) := by
    rw [hDerives.dialect]
    exact PartKey.derive_eq_bound hGenerator v _
  unfold predicateValue
  simp [Predicate.onSource, operandValue, derived, hKey, hPlain,
    hLink, hTarget, hGenerated, hLevel, hDerived,
    hDerives.hasGeneratedKey, Value.withCollation]

/-
  A predicate on the source gives a range of the column, and
  nothing but the derived operand depends on the slice.
-/
theorem result_onSource
    (hDerives : s.schema.Derives source slice)
    (hDefaults : s.NeedsNoDefault)
    (ev : Evaluator)
    (second : UInt64)
    (op : Comparator)
    (v : List UInt8) :
    ((s.withPredicates
        [some (.onSource source second op v)]).resolve
          ev).result =
      .ok
        ⟨⟨[Bound.unset.set op
              (.text (slice.bound v) s.session.collation)],
            Border.exclusive.close op⟩,
          ⟨[], Border.exclusive⟩⟩ := by
  have hFirst : firstCount s.schema = 1 := by
    rw [firstCount, hDerives.level]
    exact hDerives.columns
  have hSecond : secondCount s.schema = 0 := by
    rw [secondCount, hDerives.level]
  have hStart :
      startDrafts s.schema =
        .ok ⟨Draft.untouched 1, Draft.untouched 0⟩ := by
    rw [startDrafts_eq_ok_iff, hFirst, hSecond]
    exact ⟨by decide, rfl⟩
  rw [result_resolve ev rfl]
  simp only [schema_withPredicates, hDerives.valid, hStart,
    Steps.ok_bind, applyDefaults_withPredicates,
    hDefaults.applyDefaults ev, narrow_withPredicates,
    List.foldl_cons, List.foldl_nil,
    narrow_of_ok
      (predicateValue_onSource hDerives ev second op v),
    (fits_of_startDrafts hStart).place_eq, hFirst]
  simp [Predicate.onSource, KeyLevel.coversOne,
    KeyLevel.coversTwo, Drafts.write, Drafts.toRanges,
    Draft.normalise_write_untouched]
  rfl

/-
  The range of a predicate on the source admits the column's
  value for every source that the predicate holds for.
-/
def KeepsSources
    (s : Statement)
    (ev : Evaluator)
    (slice : Slice)
    (source second : UInt64)
    (op : Comparator)
    (v : List UInt8) : Prop :=
  ∃ ranges,
    ((s.withPredicates
          [some (.onSource source second op v)]).resolve
        ev).result = .ok ranges ∧
      ∀ x, op.Orders x v →
        ∃ g,
          Evaluator.builtin s.scope (slice.expr x) = .ok [g] ∧
            ranges.one.Admits Value.bytewise [g]

/- The evaluator gives the slice of every source. -/
theorem builtin_expr
    (hDerives : s.schema.Derives source slice)
    (x : List UInt8) :
    Evaluator.builtin s.scope (slice.expr x) =
      .ok [.text (slice.value x) s.config.collation] :=
  slice.builtin_expr hDerives.dialect x

/- Sources are kept where the slices of both sides compare alike. -/
theorem keepsSources_iff
    (hDerives : s.schema.Derives source slice)
    (hDefaults : s.NeedsNoDefault)
    (ev : Evaluator)
    (second : UInt64)
    (op : Comparator)
    (v : List UInt8) :
    s.KeepsSources ev slice source second op v ↔
      ∀ x, op.Orders x v →
        op.Orders (slice.value x) (slice.bound v) := by
  have hResult :=
    result_onSource hDerives hDefaults ev second op v
  constructor
  · rintro ⟨ranges, hRanges, hKeeps⟩ x hOrders
    rw [hResult] at hRanges
    cases hRanges
    rcases hKeeps x hOrders with ⟨g, hValue, hAdmits⟩
    rw [builtin_expr hDerives] at hValue
    cases hValue
    exact (KeyRange.admits_singleton_iff op _ _ _ _).mp hAdmits
  · intro hSlices
    refine ⟨_, hResult, ?_⟩
    intro x hOrders
    refine ⟨_, builtin_expr hDerives x, ?_⟩
    rw [KeyRange.admits_singleton_iff]
    exact hSlices x hOrders

/-
  Sources are kept for an operand that is carried.  Other
  operands lose some source where the slice is a prefix or
  blank, and in equalities.  A slice from a later byte on
  loses some for every order comparison.
-/
theorem keepsSources_onSource
    (hDerives : s.schema.Derives source slice)
    (hDefaults : s.NeedsNoDefault)
    (ev : Evaluator)
    (second : UInt64)
    (op : Comparator) :
    (∀ v, slice.Carries op v →
        s.KeepsSources ev slice source second op v) ∧
      (slice.IsLeading ∨ slice.IsBlank ∨ op = .eq →
        ∀ v, s.KeepsSources ev slice source second op v →
          slice.Carries op v) ∧
      (¬ slice.IsLeading → ¬ slice.IsBlank →
        op ≠ .eq → op ≠ .other →
          ∃ v,
            ¬ s.KeepsSources ev slice source second op v) := by
  refine ⟨?_, ?_, ?_⟩
  · intro v hCarries
    rw [keepsSources_iff hDerives hDefaults]
    intro x hOrders
    exact Slice.orders_of_carries hCarries hOrders
  · intro hKind v hKeeps
    rw [keepsSources_iff hDerives hDefaults] at hKeeps
    apply Classical.byContradiction
    intro hNot
    rcases Slice.exists_lost hNot hKind with
      ⟨x, hOrders, hLost⟩
    exact hLost (hKeeps x hOrders)
  · intro hLeading hBlank hEq hOther
    rcases Slice.exists_lost_of_inner hLeading hBlank hEq
        hOther with
      ⟨v, x, hOrders, hLost⟩
    refine ⟨v, ?_⟩
    intro hKeeps
    rw [keepsSources_iff hDerives hDefaults] at hKeeps
    exact hLost (hKeeps x hOrders)

/-
  A table of names by a code, which is a slice of the name,
  with a stored default of the name.
-/
def codedNames
    (slice : Slice)
    (stored : List UInt8) : Schema where
  level := .one
  columns := ["code"]
  subColumns := []
  keys :=
    [⟨"name", .one, 0, false, some 1, some 0,
        some (slice.generator "name"), stored, false⟩,
      ⟨"code", .one, 0, true, none, none, none, [], false⟩]
  dialect := slice.dialect

/- Lookups of names, which have no default. -/
def codedLookup
    (slice : Slice) : Statement where
  config := default
  predicates? := none
  schema := codedNames slice []
  session := Session.ofCollation ⟨46⟩
  request := default
  prepared? := none
  fields := default
  isInsert := false

/- Insertion of names, of which `a` is the default. -/
def codedInsertion
    (slice : Slice) : Statement :=
  { codedLookup slice with
    schema := codedNames slice [2, 46, 0, 1, 0, 0, 0, 0x61]
    isInsert := true }

theorem derives_codedNames
    (slice : Slice)
    (stored : List UInt8) :
    (codedNames slice stored).Derives 0 slice where
  dialect := rfl
  valid := rfl
  level := rfl
  columns := rfl
  link :=
    ⟨_, _, 1, "name", rfl, rfl, rfl, rfl, rfl, rfl, rfl⟩

theorem needsNoDefault_codedLookup
    (slice : Slice) :
    (codedLookup slice).NeedsNoDefault := by
  intro hInsert
  cases hInsert

/- The first three bytes. -/
def firstThree : Slice :=
  ⟨.mysql, 1, some 3⟩

/- All bytes from the third on. -/
def fromThird : Slice :=
  ⟨.mysql, 3, none⟩

theorem keepsSources_firstThree :
    (codedLookup firstThree).schema.Derives 0 firstThree ∧
      (codedLookup firstThree).NeedsNoDefault ∧
      firstThree.Carries .ge [0x61, 0x62, 0x63, 0x61] ∧
      (codedLookup firstThree).KeepsSources .builtin
        firstThree 0 0 .ge [0x61, 0x62, 0x63, 0x61] := by
  have hDerives :
      (codedLookup firstThree).schema.Derives 0 firstThree :=
    derives_codedNames firstThree []
  have hDefaults := needsNoDefault_codedLookup firstThree
  have hCarries :
      firstThree.Carries .ge [0x61, 0x62, 0x63, 0x61] := by
    have hLeading : firstThree.IsLeading := Or.inl rfl
    refine Or.inr ⟨hLeading, hLeading.not_isBlank ?_⟩
    intro n hLength
    cases hLength
    decide
  refine ⟨hDerives, hDefaults, hCarries, ?_⟩
  apply
    (keepsSources_onSource hDerives hDefaults .builtin 0 .ge).1
  exact hCarries

/-
  A name above `abca` can begin with the three bytes that
  its codes are to be above.  The name `ab` has an empty
  code, not the code `ab`.  A default of the name takes the
  place of the name that a predicate gives.
-/
theorem not_keepsSources_codedNames :
    (∀ slice stored,
        (codedNames slice stored).Derives 0 slice) ∧
      (⟨46⟩ : Collation).isCaseInsensitive = false ∧
      ¬ (codedLookup firstThree).KeepsSources .builtin
          firstThree 0 0 .gt [0x61, 0x62, 0x63, 0x61] ∧
      ¬ (codedLookup fromThird).KeepsSources .builtin
          fromThird 0 0 .eq [0x61, 0x62] ∧
      ¬ (codedInsertion firstThree).KeepsSources .builtin
          firstThree 0 0 .eq [0x62] := by
  refine ⟨derives_codedNames, by decide, ?_, ?_, ?_⟩
  · rw [keepsSources_iff (derives_codedNames _ _)
      (needsNoDefault_codedLookup _)]
    intro hKeeps
    have hCode :
        firstThree.bound [0x61, 0x62, 0x63, 0x61] <
          firstThree.value [0x61, 0x62, 0x63, 0x64] :=
      hKeeps [0x61, 0x62, 0x63, 0x64] (show _ < _ by decide)
    have hSame :
        firstThree.bound [0x61, 0x62, 0x63, 0x61] =
          firstThree.value [0x61, 0x62, 0x63, 0x64] := by
      decide
    rw [hSame] at hCode
    exact List.lt_irrefl _ hCode
  · rw [keepsSources_iff (derives_codedNames _ _)
      (needsNoDefault_codedLookup _)]
    intro hKeeps
    have hCode := hKeeps [0x61, 0x62] rfl
    revert hCode
    show ¬ _ = _
    decide
  · rintro ⟨ranges, hRanges, hKeeps⟩
    have hResult :
        (((codedInsertion firstThree).withPredicates
            [some (.onSource 0 0 .eq [0x62])]).resolve
          .builtin).result =
          .ok
            ⟨⟨[Bound.unset.set .eq (.text [0x61] ⟨46⟩)],
                Border.exclusive.close .eq⟩,
              ⟨[], Border.exclusive⟩⟩ :=
      rfl
    rw [hResult] at hRanges
    cases hRanges
    rcases hKeeps [0x62] rfl with ⟨g, hValue, hAdmits⟩
    rw [builtin_expr (derives_codedNames _ _)] at hValue
    cases hValue
    rw [KeyRange.admits_singleton_iff] at hAdmits
    revert hAdmits
    show ¬ _ = _
    decide

end Statement

end PartitionPruning
