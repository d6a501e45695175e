import PartitionPruning.Proofs.Statement.Literals
import PartitionPruning.Proofs.Statement.Writes

/-
  Defaults as predicates.

  An `INSERT` that leaves keys to their defaults has the
  ranges of the statement that compares these keys with the
  values of their defaults, after all other predicates.

  Key definitions include:
    * `Schema.CanUse`
    * `PartKey.pinnedTo`
    * `Statement.DefaultIs`
    * `Statement.DefaultPins`
    * `Statement.HasLiteralDefaults`

  Main declarations:
    * `Schema.usableDefault?_eq_some_iff`
    * `Statement.predicateWrites_defaultPins`
    * `Statement.result_defaultPins`
-/

namespace PartitionPruning

------------------------------------------------------------
-- Defaults That Keys Can Use
------------------------------------------------------------

/-
  A key that the statement leaves out can use its own
  default.  A generated key can use that of another key: the
  one that the first of its sources names which the
  statement leaves out as well.
-/
inductive Schema.CanUse
    (s : Schema)
    (i : Nat)
    (key : PartKey) : Schema.UsableDefault → Prop where
  | own
      (isOpen : key.inStatement = false)
      (isPlain : key.isGenerated = false)
      (isStored : key.storedDefault ≠ []) :
      CanUse s i key ⟨key.storedDefault, none⟩
  | ofSource
      {before after : List PartKey}
      {source realKey : PartKey}
      {real : UInt64}
      (isOpen : key.inStatement = false)
      (isGenerated : key.isGenerated = true)
      (keys : s.keys = before ++ source :: after)
      (isFirst :
        ∀ other ∈ before,
          other.target?.map UInt64.toNat = some i →
            other.inStatement = true)
      (feeds : source.target?.map UInt64.toNat = some i)
      (isOpenSource : source.inStatement = false)
      (names : source.realSource? = some real)
      (isKey : s.keys[real.toNat]? = some realKey)
      (isStored : realKey.storedDefault ≠ []) :
      CanUse s i key ⟨realKey.storedDefault, some source⟩

namespace Schema

variable {s : Schema}
variable {i : Nat}
variable {key : PartKey}

/- A default is stored where its bytes are not empty. -/
theorem storedDefault?_eq_some_iff
    {stored : List UInt8} :
    storedDefault? key = some stored ↔
      stored = key.storedDefault ∧ key.storedDefault ≠ [] := by
  unfold storedDefault?
  cases hStored : key.storedDefault with
  | nil => simp
  | cons b rest => simp [eq_comm]

/- The first open source comes after sources that are given. -/
theorem openSource?_eq_some_iff
    {source : PartKey} :
    s.openSource? i = some source ↔
      (source.target?.map UInt64.toNat = some i ∧
        source.inStatement = false) ∧
      ∃ before after, s.keys = before ++ source :: after ∧
        ∀ other ∈ before,
          other.target?.map UInt64.toNat = some i →
            other.inStatement = true := by
  have hGiven (other : PartKey) :
      (!(feeds other i && !other.inStatement)) = true ↔
        (other.target?.map UInt64.toNat = some i →
          other.inStatement = true) := by
    by_cases hFeeds : other.target?.map UInt64.toNat = some i
    · simp [feeds, hFeeds]
    · simp [feeds, hFeeds]
  unfold openSource?
  rw [List.find?_eq_some_iff_append]
  simp only [hGiven]
  simp only [feeds, Bool.and_eq_true, decide_eq_true_eq,
    Bool.not_eq_true']

/- Keys look up the defaults that they can use. -/
theorem usableDefault?_eq_some_iff
    {usable : UsableDefault} :
    s.usableDefault? i key = some usable ↔
      s.CanUse i key usable := by
  constructor
  · intro h
    unfold usableDefault? at h
    split at h
    · cases h
    · next hOpen =>
        rw [Bool.not_eq_true] at hOpen
        split at h
        · next hGenerated =>
            simp only [Option.bind_eq_bind,
              Option.bind_eq_some_iff] at h
            rcases h with
              ⟨source, hSource, real, hReal, realKey, hKey,
                stored, hStored, hUsable⟩
            cases hUsable
            rcases openSource?_eq_some_iff.mp hSource with
              ⟨⟨hFeeds, hOpenSource⟩, before, after, hKeys,
                hFirst⟩
            rcases storedDefault?_eq_some_iff.mp hStored with
              ⟨rfl, hNe⟩
            exact
              .ofSource hOpen hGenerated hKeys hFirst hFeeds
                hOpenSource hReal hKey hNe
        · next hPlain =>
            rw [Bool.not_eq_true] at hPlain
            rcases Option.map_eq_some_iff.mp h with
              ⟨stored, hStored, hUsable⟩
            cases hUsable
            rcases storedDefault?_eq_some_iff.mp hStored with
              ⟨rfl, hNe⟩
            exact .own hOpen hPlain hNe
  · intro h
    cases h with
    | own isOpen isPlain isStored =>
        have hStored :=
          storedDefault?_eq_some_iff.mpr ⟨rfl, isStored⟩
        simp [usableDefault?, isOpen, isPlain, hStored]
    | ofSource isOpen isGenerated keys isFirst feeds
        isOpenSource names isKey isStored =>
        have hSource :=
          openSource?_eq_some_iff.mpr
            ⟨⟨feeds, isOpenSource⟩, _, _, keys, isFirst⟩
        have hStored :=
          storedDefault?_eq_some_iff.mpr ⟨rfl, isStored⟩
        simp [usableDefault?, isOpen, isGenerated, hSource,
          names, isKey, hStored]

theorem usableDefault?_eq_none
    (h : ∀ usable, ¬ s.CanUse i key usable) :
    s.usableDefault? i key = none := by
  apply Option.eq_none_iff_forall_ne_some.mpr
  intro usable hUsable
  exact h usable (usableDefault?_eq_some_iff.mp hUsable)

end Schema

------------------------------------------------------------
-- Literals Of Defaults
------------------------------------------------------------

/-
  The predicate that pins a key, by its index, to a literal.
  It is marked as a row-id hint, so nothing is derived from
  the literal.
-/
def PartKey.pinnedTo
    (key : PartKey)
    (i : Nat)
    (l : Literal) : Predicate where
  key := UInt64.ofNat i
  first := key.position
  second := key.position
  level := key.level
  op := .eq
  operand := l.operand
  fromRowId := true

/- What is derived from a literal is a literal. -/
theorem PartKey.derive_value
    {source : PartKey}
    {d : Dialect}
    {l : Literal}
    {c : Collation}
    {v : Value}
    (h : source.derive d (l.value c) = .ok v) :
    ∃ m : Literal, v = m.value c := by
  unfold PartKey.derive at h
  split at h
  · cases h
  · next g _ =>
      split at h
      · cases l with
        | int i =>
            cases h
            exact ⟨.int i, rfl⟩
        | text bytes =>
            cases h
            exact ⟨.text (Derivation.substring d g bytes), rfl⟩
      · cases h

namespace Statement

variable {s : Statement}
variable {ev : Evaluator}
variable {i : Nat}
variable {key : PartKey}
variable {keys : List PartKey}
variable {predicates : List (Option Predicate)}

/-
  The literal of a key's default: the default that it can
  use, or what its source derives from it.
-/
inductive DefaultIs
    (s : Statement)
    (ev : Evaluator)
    (i : Nat)
    (key : PartKey) : Literal → Prop where
  | own
      {stored : List UInt8}
      {l : Literal}
      {c : Collation}
      (usable : s.schema.CanUse i key ⟨stored, none⟩)
      (decoded : s.defaultValue ev stored = .ok (l.value c)) :
      DefaultIs s ev i key l
  | ofSource
      {stored : List UInt8}
      {source : PartKey}
      {v : Value}
      {l : Literal}
      {c : Collation}
      (usable : s.schema.CanUse i key ⟨stored, some source⟩)
      (decoded : s.defaultValue ev stored = .ok v)
      (derived :
        source.derive s.schema.dialect v =
          .ok (l.value c)) :
      DefaultIs s ev i key l

/-
  The predicates that stand for the defaults of keys, from
  index `i` on: one for every key that can use a default, in
  the order of the keys.
-/
inductive DefaultPins
    (s : Statement)
    (ev : Evaluator) :
    Nat → List PartKey → List (Option Predicate) → Prop where
  | done
      (i : Nat) :
      DefaultPins s ev i [] []
  | passed
      {i : Nat}
      {key : PartKey}
      {rest : List PartKey}
      {pins : List (Option Predicate)}
      (hNone : ∀ usable, ¬ s.schema.CanUse i key usable)
      (others : DefaultPins s ev (i + 1) rest pins) :
      DefaultPins s ev i (key :: rest) pins
  | pinned
      {i : Nat}
      {key : PartKey}
      {rest : List PartKey}
      {pins : List (Option Predicate)}
      {l : Literal}
      (hDefault : s.DefaultIs ev i key l)
      (others : DefaultPins s ev (i + 1) rest pins) :
      DefaultPins s ev i (key :: rest)
        (some (key.pinnedTo i l) :: pins)

/- Every default that a key can use is an integer or string. -/
def HasLiteralDefaults
    (s : Statement)
    (ev : Evaluator) : Prop :=
  ∀ i key usable v,
    s.schema.keys[i]? = some key →
      s.schema.CanUse i key usable →
        s.defaultValue ev usable.stored = .ok v →
          ∃ (l : Literal) (c : Collation), v = l.value c

/- A default has the session's collation. -/
theorem withCollation_of_defaultValue
    {stored : List UInt8}
    {v : Value}
    (h : s.defaultValue ev stored = .ok v) :
    v.withCollation s.session.collation = v := by
  unfold defaultValue at h
  split at h
  · cases h
    rfl
  · split at h
    · cases h
    · dsimp only at h
      split at h
      · rcases Steps.bind_eq_ok_iff.mp h with ⟨w, _, hValue⟩
        cases hValue
        exact Value.withCollation_withCollation _ _ _
      · cases h
        exact Value.withCollation_withCollation _ _ _

/- The predicate for a default has the value of the default. -/
theorem predicateValue_pinnedTo
    (s : Statement)
    (ev : Evaluator)
    (key : PartKey)
    (i : Nat)
    (l : Literal) :
    s.predicateValue ev (key.pinnedTo i l) =
      .ok (l.value s.session.collation) := by
  cases l <;> rfl

/- A key that can use no default is left alone. -/
theorem keyDefault?_of_canUse_none
    (h : ∀ usable, ¬ s.schema.CanUse i key usable) :
    s.keyDefault? ev i key = .ok none := by
  simp [keyDefault?, Schema.usableDefault?_eq_none h]

/- The value of a literal under the collation it already has. -/
theorem value_eq_of_withCollation
    {l : Literal}
    {c d : Collation}
    (h : (l.value c).withCollation d = l.value c) :
    l.value c = l.value d := by
  rw [← h, Literal.withCollation_value]

/- A default that denotes a literal gives its value. -/
theorem keyDefault?_of_defaultIs
    {l : Literal}
    (h : s.DefaultIs ev i key l) :
    s.keyDefault? ev i key =
      .ok (some (l.value s.session.collation)) := by
  cases h with
  | own usable decoded =>
      have hUsable :=
        Schema.usableDefault?_eq_some_iff.mpr usable
      have hCollation := withCollation_of_defaultValue decoded
      simp [keyDefault?, hUsable, decoded,
        value_eq_of_withCollation hCollation]
  | @ofSource stored source v l c usable decoded derived =>
      have hUsable :=
        Schema.usableDefault?_eq_some_iff.mpr usable
      have hCollation :
          (l.value c).withCollation s.session.collation =
            l.value c := by
        have hDerive :=
          source.derive_withCollation s.schema.dialect v
            s.session.collation
        rw [withCollation_of_defaultValue decoded, derived]
          at hDerive
        exact (Except.ok.inj hDerive).symm
      simp [keyDefault?, hUsable, decoded, derived,
        value_eq_of_withCollation hCollation]

/- The predicates for defaults write what the defaults do. -/
theorem predicateWrites_defaultPins
    {pins : List (Option Predicate)}
    (h : s.DefaultPins ev i keys pins) :
    s.predicateWrites ev pins = s.defaultWrites ev i keys := by
  unfold predicateWrites
  induction h with
  | done i => rfl
  | passed hNone _ ih =>
      rw [ih]
      simp [defaultWrites, keyDefault?_of_canUse_none hNone]
  | @pinned i key rest pins l hDefault _ ih =>
      have hWrite :
          s.predicateWrite? ev (some (key.pinnedTo i l)) =
            some
              (defaultWrite key
                (l.value s.session.collation)) := by
        simp only [predicateWrite?, predicateValue_pinnedTo]
        rfl
      rw [List.filterMap_cons_some hWrite, ih]
      simp [defaultWrites, keyDefault?_of_defaultIs hDefault]

/- A default that is found and is a literal is the key's. -/
theorem exists_defaultIs
    {usable : Schema.UsableDefault}
    {v? : Option Value}
    (hUsable : s.schema.usableDefault? i key = some usable)
    (hDefault : s.keyDefault? ev i key = .ok v?)
    (hLiteral :
      ∀ v, s.defaultValue ev usable.stored = .ok v →
        ∃ (l : Literal) (c : Collation), v = l.value c) :
    ∃ l v, v? = some v ∧ s.DefaultIs ev i key l := by
  have hCanUse := Schema.usableDefault?_eq_some_iff.mp hUsable
  rcases usable with ⟨stored, source?⟩
  simp only [keyDefault?, hUsable] at hDefault
  rcases Steps.bind_eq_ok_iff.mp hDefault with
    ⟨v, hValue, hRest⟩
  rcases hLiteral v hValue with ⟨l, c, rfl⟩
  cases source? with
  | none =>
      cases hRest
      exact ⟨l, _, rfl, .own hCanUse hValue⟩
  | some source =>
      rcases Steps.bind_eq_ok_iff.mp hRest with
        ⟨w, hDerive, hDone⟩
      cases hDone
      rcases PartKey.derive_value hDerive with ⟨m, rfl⟩
      exact ⟨m, _, rfl, .ofSource hCanUse hValue hDerive⟩

/- Literal defaults that are all placed have predicates. -/
theorem exists_defaultPins
    {d d' : Drafts}
    (hLiterals :
      ∀ j key usable v, keys[j]? = some key →
        s.schema.CanUse (i + j) key usable →
          s.defaultValue ev usable.stored = .ok v →
            ∃ (l : Literal) (c : Collation), v = l.value c)
    (h : s.placeDefaults ev i keys d = .ok d') :
    ∃ pins, s.DefaultPins ev i keys pins := by
  induction keys generalizing i d with
  | nil => exact ⟨[], .done i⟩
  | cons key rest ih =>
      unfold placeDefaults at h
      rcases Steps.bind_eq_ok_iff.mp h with
        ⟨v?, hDefault, hRest⟩
      have hOthers :
          ∀ d, s.placeDefaults ev (i + 1) rest d = .ok d' →
            ∃ pins, s.DefaultPins ev (i + 1) rest pins := by
        intro d hPlaced
        refine ih ?_ hPlaced
        intro j other usable v hKey hCanUse hValue
        rw [Nat.add_right_comm, Nat.add_assoc] at hCanUse
        exact hLiterals (j + 1) other usable v hKey hCanUse hValue
      cases hUsable : s.schema.usableDefault? i key with
      | none =>
          have hNone : s.keyDefault? ev i key = .ok none := by
            simp [keyDefault?, hUsable]
          rw [hNone] at hDefault
          cases hDefault
          rcases hOthers d hRest with ⟨pins, hPins⟩
          refine ⟨pins, .passed ?_ hPins⟩
          intro usable hCanUse
          have hSome :=
            Schema.usableDefault?_eq_some_iff.mpr hCanUse
          rw [hUsable] at hSome
          cases hSome
      | some usable =>
          have hCanUse :=
            Schema.usableDefault?_eq_some_iff.mp hUsable
          rcases exists_defaultIs hUsable hDefault
              (fun v => hLiterals 0 key usable v rfl hCanUse) with
            ⟨l, v, rfl, hIs⟩
          dsimp only at hRest
          split at hRest
          · cases hRest
          · rcases hOthers _ hRest with ⟨pins, hPins⟩
            exact ⟨_, .pinned hIs hPins⟩

------------------------------------------------------------
-- Whole Statements
------------------------------------------------------------

/- The statement as no `INSERT`, with other predicates. -/
def withoutInsert
    (s : Statement)
    (predicates : List (Option Predicate)) : Statement :=
  { s with predicates? := some predicates, isInsert := false }

/- Predicates do not depend on the kind of a statement. -/
@[simp]
theorem narrow_withoutInsert
    (s : Statement)
    (predicates : List (Option Predicate))
    (ev : Evaluator) :
    (s.withoutInsert predicates).narrow ev = s.narrow ev :=
  rfl

/-
  An `INSERT` whose defaults are integers and strings has
  predicates for them, and has the ranges of the statement
  that is no `INSERT` and has these predicates last.
-/
theorem result_defaultPins
    {ranges : Ranges}
    (hPredicates : s.predicates? = some predicates)
    (hInsert : s.isInsert = true)
    (hResult : (s.resolve ev).result = .ok ranges)
    (hLiterals : s.HasLiteralDefaults ev) :
    (∃ pins, s.DefaultPins ev 0 s.schema.keys pins) ∧
      ∀ pins, s.DefaultPins ev 0 s.schema.keys pins →
        ((s.withoutInsert (predicates ++ pins)).resolve
            ev).result = .ok ranges := by
  rw [result_resolve ev hPredicates] at hResult
  rcases Steps.bind_eq_ok_iff.mp hResult with
    ⟨_, hValid, hRest⟩
  rcases Steps.bind_eq_ok_iff.mp hRest with
    ⟨start, hStart, hRest⟩
  rcases Steps.bind_eq_ok_iff.mp hRest with
    ⟨d, hDefaults, hRanges⟩
  rw [applyDefaults, if_pos hInsert] at hDefaults
  constructor
  · refine exists_defaultPins ?_ hDefaults
    intro j key usable v hKey hCanUse hValue
    rw [Nat.zero_add] at hCanUse
    exact hLiterals j key usable v hKey hCanUse hValue
  · intro pins hPins
    have hFold :
        (predicates ++ pins).foldl (s.narrow ev) start = d := by
      rw [List.foldl_append, s.foldl_narrow ev _ pins,
        predicateWrites_defaultPins hPins]
      exact foldl_defaultWrites hDefaults
    have hPlain (d : Drafts) :
        (s.withoutInsert (predicates ++ pins)).applyDefaults
          ev d = .ok d := rfl
    have hSchema :
        (s.withoutInsert (predicates ++ pins)).schema =
          s.schema := rfl
    rw [result_resolve ev rfl, narrow_withoutInsert, hSchema,
      hValid, hStart]
    simp only [Steps.ok_bind, hPlain, hFold]
    exact hRanges

/-
  An `INSERT` that gives a day and nothing else.  The tenant
  has a number for its default and belongs to both levels.
  The code is derived from the default of the name, which
  itself belongs to no level.
-/
def dayInsert : Statement where
  config := default
  predicates? :=
    some [some ⟨3, 0, 1, .two, .ge, .int 3, false⟩, none]
  schema :=
    ⟨.two, ["tenant", "code"], ["tenant", "day"],
      [⟨"tenant", .both, 0, false, none, none, none,
          [1, 9, 0, 0, 0, 0, 0, 0, 0], false⟩,
        ⟨"name", .zero, 0, false, some 2, some 1,
          some (Generator.substring "name" (some 1) (some 2)),
          [2, 45, 0, 5, 0, 0, 0, 0x27, 0x61, 0x62, 0x63, 0x27],
          false⟩,
        ⟨"code", .one, 1, true, none, none, none, [], false⟩,
        ⟨"day", .two, 1, false, none, none, none,
          [1, 5, 0, 0, 0, 0, 0, 0, 0], true⟩],
      .oracle⟩
  session := Session.ofCollation ⟨46⟩
  request := default
  prepared? := none
  fields := default
  isInsert := true

/- The keys of `dayInsert`. -/
def dayKeys : List PartKey :=
  dayInsert.schema.keys

/- The predicates for its defaults. -/
def dayPins : List (Option Predicate) :=
  [some ⟨0, 0, 0, .both, .eq, .int 9, true⟩,
    some ⟨1, 0, 0, .zero, .eq, .text [0x61, 0x62, 0x63], true⟩,
    some ⟨2, 1, 1, .one, .eq, .text [0x61, 0x62], true⟩]

/- The ranges of `dayInsert`. -/
def dayRanges : Ranges :=
  ⟨⟨[⟨.int 9, .int 9⟩,
        ⟨.text [0x61, 0x62] ⟨46⟩, .text [0x61, 0x62] ⟨46⟩⟩],
      ⟨true, true⟩⟩,
    ⟨[⟨.int 9, .int 9⟩, ⟨.int 3, .null⟩], ⟨true, false⟩⟩⟩

theorem hasLiteralDefaults_dayInsert :
    dayInsert.HasLiteralDefaults .builtin := by
  intro i key usable v hKey hCanUse hValue
  have hUsable := Schema.usableDefault?_eq_some_iff.mpr hCanUse
  match i with
  | 0 =>
      cases hKey
      cases hUsable
      cases hValue
      exact ⟨.int 9, default, rfl⟩
  | 1 =>
      cases hKey
      cases hUsable
      cases hValue
      exact ⟨.text [0x61, 0x62, 0x63], ⟨46⟩, rfl⟩
  | 2 =>
      cases hKey
      cases hUsable
      cases hValue
      exact ⟨.text [0x61, 0x62, 0x63], ⟨46⟩, rfl⟩
  | 3 =>
      cases hKey
      cases hUsable
  | _ + 4 => cases hKey

theorem defaultPins_dayInsert :
    dayInsert.DefaultPins .builtin 0 dayKeys dayPins := by
  have hDay (usable : Schema.UsableDefault) :
      ¬ dayInsert.schema.CanUse 3 (dayKeys.get ⟨3, by decide⟩)
          usable := by
    intro hCanUse
    cases Schema.usableDefault?_eq_some_iff.mpr hCanUse
  refine
    .pinned (l := .int 9) ?_
      (.pinned (l := .text [0x61, 0x62, 0x63]) ?_
        (.pinned (l := .text [0x61, 0x62]) ?_
          (.passed hDay (.done 4))))
  · exact
      .own (c := default)
        (Schema.usableDefault?_eq_some_iff.mp rfl) rfl
  · exact
      .own (c := ⟨46⟩)
        (Schema.usableDefault?_eq_some_iff.mp rfl) rfl
  · exact
      .ofSource (c := ⟨46⟩)
        (Schema.usableDefault?_eq_some_iff.mp rfl) rfl rfl

theorem result_dayInsert :
    (dayInsert.resolve .builtin).result = .ok dayRanges ∧
      dayInsert.HasLiteralDefaults .builtin ∧
      dayInsert.DefaultPins .builtin 0 dayKeys dayPins ∧
      ((dayInsert.withoutInsert
          ([some ⟨3, 0, 1, .two, .ge, .int 3, false⟩, none] ++
            dayPins)).resolve .builtin).result =
        .ok dayRanges :=
  have hResult :
      (dayInsert.resolve .builtin).result = .ok dayRanges :=
    rfl
  have hPins :=
    (result_defaultPins rfl rfl hResult
      hasLiteralDefaults_dayInsert).2 dayPins
        defaultPins_dayInsert
  ⟨hResult, hasLiteralDefaults_dayInsert,
    defaultPins_dayInsert, hPins⟩

end Statement

end PartitionPruning
