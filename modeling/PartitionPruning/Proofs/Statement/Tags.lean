import PartitionPruning.Proofs.Expr.Tags
import PartitionPruning.Proofs.Statement.Literals
import PartitionPruning.Proofs.Statement.Lookups

/-
  Resolution and the collations of what it reads.

  User variables, fields and stored defaults hold strings
  under collations of their own, and literals come under the
  one that is configured.  None of them reaches the ranges,
  a notice or a choice: a statement is resolved like the
  same statement without any of these collations.

  Key definitions include:
    * `Stored.untagged`
    * `Schema.untagged`
    * `Statement.untagged`
    * `Statement.SameButTags`

  Main declarations:
    * `Statement.predicateValue_untagged`
    * `Statement.defaultValue_untagged`
    * `Statement.resolve_untagged`
    * `Statement.resolve_eq_of_sameButTags`
-/

namespace PartitionPruning

------------------------------------------------------------
-- Stored Values
------------------------------------------------------------

/- The stored form of a value under no collation. -/
def Stored.untagged : List UInt8 → List UInt8
  | 2 :: _ :: _ :: rest => 2 :: 0 :: 0 :: rest
  | bs => bs

theorem Stored.isEmpty_untagged
    (bs : List UInt8) :
    (untagged bs).isEmpty = bs.isEmpty := by
  unfold untagged
  split <;> rfl

/- The bytes of a part come after those before them. -/
theorem LittleEndian.split?_cons
    (n : Nat)
    (b : UInt8)
    (bs : List UInt8) :
    split? (n + 1) (b :: bs) =
      (split? n bs).map fun pieces =>
        (b :: pieces.1, pieces.2) := by
  by_cases h : n ≤ bs.length
  · simp [split?, h]
  · simp [split?, h]

/- A stored value is loaded without its collation. -/
theorem Value.load_untagged
    (bs : List UInt8) :
    load (Stored.untagged bs) =
      (load bs).map Value.untagged := by
  unfold Stored.untagged
  split
  · next a b rest =>
      have hSplit (x y : UInt8) :
          LittleEndian.split? 6 (x :: y :: rest) =
            (LittleEndian.split? 4 rest).map fun pieces =>
              (x :: y :: pieces.1, pieces.2) := by
        simp only [LittleEndian.split?_cons,
          Option.map_map, Function.comp_def]
      simp only [load, Stored.take, hSplit]
      cases LittleEndian.split? 4 rest with
      | none => rfl
      | some pieces =>
          simp only [Option.map_some, Steps.ok_bind,
            List.drop_succ_cons, List.drop_zero]
          cases LittleEndian.split?
              (LittleEndian.value pieces.1) pieces.2 <;>
            rfl
  · next hShort =>
      fun_cases load bs with
      | case3 rest =>
          cases Stored.take .intValue 8 rest <;> rfl
      | case4 rest =>
          -- A header of fewer than two bytes is cut off.
          rcases rest with _ | ⟨a, _ | ⟨b, rest⟩⟩
          · rfl
          · rfl
          · exact absurd rfl (hShort a b rest)
      | _ => rfl

------------------------------------------------------------
-- Schemas
------------------------------------------------------------

/- The same key with its default under no collation. -/
def PartKey.untagged
    (key : PartKey) : PartKey :=
  { key with
    storedDefault := Stored.untagged key.storedDefault }

namespace Schema

/- The same schema with all defaults under no collation. -/
def untagged
    (s : Schema) : Schema :=
  { s with keys := s.keys.map PartKey.untagged }

variable {s : Schema}

/- Keys keep their places. -/
theorem getElem?_keys_untagged
    (s : Schema)
    (i : Nat) :
    s.untagged.keys[i]? = s.keys[i]?.map PartKey.untagged :=
  List.getElem?_map

theorem any_keys_untagged
    {p : PartKey → Bool}
    (s : Schema)
    (h : ∀ key : PartKey, p key.untagged = p key) :
    s.untagged.keys.any p = s.keys.any p := by
  simp [untagged, List.any_map, Function.comp_def, h]

/- Links do not depend on stored defaults. -/
theorem linkFault?_untagged
    (s : Schema)
    (i : Nat)
    (key : PartKey) :
    s.untagged.linkFault? i key.untagged =
      s.linkFault? i key := by
  have hAt (j : Nat) :
      s.untagged.hasGeneratedKeyAt j =
        s.hasGeneratedKeyAt j := by
    unfold hasGeneratedKeyAt
    rw [getElem?_keys_untagged]
    cases s.keys[j]? <;> rfl
  simp only [linkFault?, hAt]
  rfl

/- Nor does whether a key has a source. -/
theorem orphanFault?_untagged
    (s : Schema)
    (i : Nat)
    (key : PartKey) :
    s.untagged.orphanFault? i key.untagged =
      s.orphanFault? i key := by
  have hFed :
      s.untagged.keys.any (fun k => feeds k i) =
        s.keys.any fun k => feeds k i :=
    any_keys_untagged s fun _ => rfl
  simp only [orphanFault?, hFed, PartKey.untagged]

/- A first fault stays the first. -/
theorem firstFault?_untagged
    {fault? fault'? : Nat → PartKey → Option Failure}
    (h :
      ∀ i key, fault'? i (PartKey.untagged key) = fault? i key)
    (i : Nat)
    (keys : List PartKey) :
    firstFault? fault'? i (keys.map PartKey.untagged) =
      firstFault? fault? i keys := by
  induction keys generalizing i with
  | nil => rfl
  | cons key rest ih =>
      simp only [List.map_cons, firstFault?, h, ih]

/- Schemas are valid or not whatever their collations. -/
theorem validate_untagged
    (s : Schema) :
    s.untagged.validate = s.validate := by
  have hLinks :=
    firstFault?_untagged s.linkFault?_untagged 0 s.keys
  have hOrphans :=
    firstFault?_untagged s.orphanFault?_untagged 0 s.keys
  unfold validate
  rw [← hLinks, ← hOrphans]
  rfl

/- The same default can be used, without its collation. -/
theorem usableDefault?_untagged
    (s : Schema)
    (i : Nat)
    (key : PartKey) :
    s.untagged.usableDefault? i key.untagged =
      (s.usableDefault? i key).map fun usable =>
        ⟨Stored.untagged usable.stored,
          usable.source?.map PartKey.untagged⟩ := by
  have hStored (k : PartKey) :
      storedDefault? k.untagged =
        (storedDefault? k).map Stored.untagged := by
    unfold storedDefault? PartKey.untagged
    simp only [Stored.isEmpty_untagged]
    split <;> rfl
  have hSource :
      s.untagged.openSource? i =
        (s.openSource? i).map PartKey.untagged :=
    List.find?_map
  have hLeftOut : key.untagged.inStatement = key.inStatement :=
    rfl
  have hGenerated :
      key.untagged.isGenerated = key.isGenerated :=
    rfl
  unfold usableDefault?
  simp only [hStored, hSource, hLeftOut, hGenerated,
    getElem?_keys_untagged]
  split
  · rfl
  · split
    · cases s.openSource? i with
      | none => rfl
      | some source =>
          have hReal :
              source.untagged.realSource? =
                source.realSource? :=
            rfl
          simp only [Option.map_some, Option.bind_eq_bind,
            Option.bind_some, hReal]
          cases source.realSource? with
          | none => rfl
          | some real =>
              simp only [Option.bind_some]
              cases s.keys[real.toNat]? with
              | none => rfl
              | some realKey =>
                  simp only [Option.map_some,
                    Option.bind_some, hStored]
                  cases storedDefault? realKey <;> rfl
    · cases storedDefault? key <;> rfl

end Schema

------------------------------------------------------------
-- Values Of Statements
------------------------------------------------------------

/- The same variables with values under no collation. -/
def Session.untagged
    (s : Session) : Session :=
  ⟨s.collation, s.userVariables.untagged⟩

/- A user variable has its value without its collation. -/
theorem Session.value_untagged
    (s : Session)
    (name : String) :
    s.untagged.value name =
      (s.value name).map Value.untagged := by
  have hGet (key : String) :
      s.untagged.userVariables.get? key =
        (s.userVariables.get? key).map Value.untagged :=
    NameTable.get?_untagged _ _
  unfold value
  rw [hGet]
  cases s.userVariables.get? (variableKey name) <;> rfl

namespace Evaluator

/- Without collations the evaluator gives the same values. -/
def IgnoresTags
    (ev : Evaluator) : Prop :=
  ∀ s e,
    ev (Scope.untagged s) e =
      (ev s e).map (List.map Value.untagged)

/- The evaluator looks at no collation of its operands. -/
theorem ignoresTags_builtin :
    builtin.IgnoresTags := by
  intro s e
  unfold builtin
  rw [Expr.eval_untagged]
  cases e.eval s <;> rfl

end Evaluator

namespace Statement

/-
  The same statement without any collation but that of its
  session.
-/
def untagged
    (s : Statement) : Statement :=
  { s with
    config := ⟨⟨0⟩, s.config.maxDepth⟩
    schema := s.schema.untagged
    session := s.session.untagged
    fields := s.fields.untagged }

variable {ev : Evaluator}

/- An expression has its value without its collation. -/
theorem evaluate_untagged
    (s : Statement)
    (hEv : ev.IgnoresTags)
    (e : Expr) :
    s.untagged.evaluate ev e =
      (s.evaluate ev e).map Value.untagged := by
  have hScope : s.untagged.scope = s.scope.untagged :=
    rfl
  unfold evaluate
  rw [hScope, hEv]
  cases ev s.scope e with
  | error cause => rfl
  | ok values => cases values <;> rfl

theorem variableParam_untagged
    (session : Session)
    (names : List String)
    (index : Nat) :
    Binding.variableParam session.untagged names index =
      (Binding.variableParam session names index).map
        Value.untagged := by
  unfold Binding.variableParam
  cases names[index]? with
  | none => rfl
  | some name =>
      simp only [session.value_untagged name]
      cases session.value name with
      | error cause => rfl
      | ok v => cases v <;> rfl

/- Parameters of packets keep the collation they come under. -/
theorem param_untagged
    (s : Statement)
    (index : Nat) :
    (s.untagged.param index).map Value.untagged =
      (s.param index).map Value.untagged := by
  have hVariable :=
    variableParam_untagged s.session s.request.variableNames
      index
  have hParts :
      s.untagged.request = s.request ∧
        s.untagged.prepared? = s.prepared? ∧
        s.untagged.session = s.session.untagged :=
    ⟨rfl, rfl, rfl⟩
  unfold param
  rw [hParts.1, hParts.2.1, hParts.2.2, hVariable]
  split
  · rfl
  · rfl
  · rfl
  · rfl
  · split
    · exact Value.map_untagged_map_untagged _
    · rfl

/-
  Values of parameters come with collations of their own,
  which are taken off on both sides.
-/
theorem bind_untagged
    (s : Statement)
    (index : Nat) :
    (s.untagged.bind index).map Value.untagged =
      (s.bind index).map Value.untagged := by
  have hRequest : s.untagged.request = s.request := rfl
  unfold bind
  rw [hRequest]
  split
  · split
    · rfl
    · rfl
    · rfl
    · exact s.param_untagged _
  · exact s.param_untagged index

/- An operand has the same value, collations aside. -/
theorem operandValue_untagged
    (s : Statement)
    (hEv : ev.IgnoresTags)
    (o : Operand) :
    (s.untagged.operandValue ev o).map Value.untagged =
      (s.operandValue ev o).map Value.untagged := by
  cases o with
  | int v => rfl
  | text bytes => rfl
  | placeholder index => exact s.bind_untagged index.toNat
  | column name => rfl
  | call name args =>
      have hDepth :
          s.untagged.config.maxDepth = s.config.maxDepth :=
        rfl
      simp only [operandValue, hDepth, s.evaluate_untagged hEv]
      cases (Operand.call name args).toExpr
          s.config.maxDepth.toNat with
      | error cause => rfl
      | ok e => exact Value.map_untagged_map_untagged _

/- Nothing that is derived consults a stored default. -/
theorem derived_untagged
    (s : Statement)
    (p : Predicate)
    (v : Value) :
    s.untagged.derived p v = s.derived p v := by
  have hKeys (i : Nat) :
      s.untagged.schema.keys[i]? =
        s.schema.keys[i]?.map PartKey.untagged :=
    s.schema.getElem?_keys_untagged i
  have hLength :
      s.untagged.schema.keys.length = s.schema.keys.length :=
    List.length_map _
  unfold derived
  rw [hKeys, hLength]
  cases s.schema.keys[p.key.toNat]? with
  | none => rfl
  | some key =>
    have hTarget : key.untagged.target? = key.target? := rfl
    simp only [Option.map_some, hKeys, hTarget]
    cases key.target? with
    | none => rfl
    | some target => 
      dsimp only
      cases s.schema.keys[target.toNat]? <;> rfl

/- Every predicate has the same value. -/
theorem predicateValue_untagged
    (s : Statement)
    (hEv : ev.IgnoresTags)
    (p : Predicate) :
    s.untagged.predicateValue ev p =
      s.predicateValue ev p := by
  have hCompared :
      s.untagged.compared p = s.compared p := by
    funext v
    have hGenerated :
        s.untagged.schema.hasGeneratedKey =
          s.schema.hasGeneratedKey :=
      s.schema.any_keys_untagged fun _ => rfl
    unfold compared
    rw [hGenerated, s.derived_untagged]
    rfl
  have hTag (v : Value) :
      s.compared p v.untagged = s.compared p v :=
    s.compared_withCollation p v ⟨0⟩
  -- The operand's values agree only without collations,
  -- which `compared` does not look at.
  rw [predicateValue_eq_bind, predicateValue_eq_bind,
    hCompared, ← Steps.map_bind hTag,
    s.operandValue_untagged hEv, Steps.map_bind hTag]

/- Predicates are placed and reported in the same way. -/
theorem placePredicates_untagged
    (s : Statement)
    (hEv : ev.IgnoresTags)
    (d : Drafts)
    (i : Nat)
    (predicates : List (Option Predicate)) :
    s.untagged.placePredicates ev d i predicates =
      s.placePredicates ev d i predicates := by
  have hPlace (d : Drafts) (i : Nat) (p? : Option Predicate) :
      s.untagged.placePredicate ev d i p? =
        s.placePredicate ev d i p? := by
    unfold placePredicate
    simp only [s.predicateValue_untagged hEv]
    rfl
  induction predicates generalizing d i with
  | nil => rfl
  | cons p? rest ih =>
      simp only [placePredicates, hPlace, ih]

------------------------------------------------------------
-- Defaults
------------------------------------------------------------

/-
  A default that is text has its value without its
  collation.
-/
theorem textDefault_untagged
    (s : Statement)
    (hEv : ev.IgnoresTags)
    (text : List UInt8) :
    s.untagged.textDefault ev text =
      (s.textDefault ev text).map Value.untagged := by
  have hCollation : s.untagged.config.collation = ⟨0⟩ := rfl
  have hDepth :
      s.untagged.config.maxDepth = s.config.maxDepth :=
    rfl
  have hNumeral (bytes : List UInt8) :
      DefaultText.numeral ⟨0⟩ bytes =
        (DefaultText.numeral s.config.collation
          bytes).untagged := by
    unfold DefaultText.numeral
    split <;> rfl
  unfold textDefault
  simp only [hCollation, hDepth, hNumeral,
    s.evaluate_untagged hEv]
  cases text with
  | nil => rfl
  | cons first rest =>
      dsimp only
      split
      · rfl
      · split
        · rfl
        · split
          · rfl
          · split
            · rfl
            · next cs _ =>
              cases Expr.parse s.config.maxDepth.toNat cs <;>
                rfl

/-
  A stored default gets the session's collation, which
  hides the one that it is stored with.
-/
theorem defaultValue_untagged
    (s : Statement)
    (hEv : ev.IgnoresTags)
    (stored : List UInt8) :
    s.untagged.defaultValue ev (Stored.untagged stored) =
      s.defaultValue ev stored := by
  have hTag (v : Value) :
      (.ok (v.untagged.withCollation s.session.collation) :
          Except Failure Value) =
        .ok (v.withCollation s.session.collation) := by
    rw [Value.untagged_withCollation]
  have hDialect :
      s.untagged.schema.dialect = s.schema.dialect :=
    rfl
  unfold defaultValue
  rw [Stored.isEmpty_untagged, Value.load_untagged, hDialect]
  split
  · rfl
  · cases Value.load stored with
    | error cause => rfl
    | ok v =>
        cases s.schema.dialect with
        | mysql => exact hTag v
        | oracle =>
            cases v with
            | text bytes c =>
                simp only [Except.map, Value.untagged,
                  Value.withCollation,
                  s.textDefault_untagged hEv]
                exact Steps.map_bind hTag
            | _ => rfl

/- The default of a key is the same in either case. -/
theorem keyDefault?_untagged
    (s : Statement)
    (hEv : ev.IgnoresTags)
    (i : Nat)
    (key : PartKey) :
    s.untagged.keyDefault? ev i key.untagged =
      s.keyDefault? ev i key := by
  have hUsable := s.schema.usableDefault?_untagged i key
  have hSchema : s.untagged.schema = s.schema.untagged := rfl
  unfold keyDefault?
  rw [hSchema, hUsable]
  cases s.schema.usableDefault? i key with
  | none => rfl
  | some usable =>
      simp only [Option.map_some, s.defaultValue_untagged hEv]
      cases usable.source? <;> rfl

/- A run over the keys leaves the same drafts. -/
theorem placeDefaults_untagged
    (s : Statement)
    (hEv : ev.IgnoresTags)
    (i : Nat)
    (keys : List PartKey)
    (d : Drafts) :
    s.untagged.placeDefaults ev i
        (keys.map PartKey.untagged) d =
      s.placeDefaults ev i keys d := by
  induction keys generalizing i d with
  | nil => rfl
  | cons key rest ih =>
      simp only [List.map_cons, placeDefaults,
        s.keyDefault?_untagged hEv, ih]
      rfl

------------------------------------------------------------
-- Whole Statements
------------------------------------------------------------

/- A statement is resolved alike, notices included. -/
theorem resolve_untagged
    (s : Statement)
    (hEv : ev.IgnoresTags) :
    s.untagged.resolve ev = s.resolve ev := by
  have hPredicates : s.untagged.predicates? = s.predicates? :=
    rfl
  have hSchema : s.untagged.schema = s.schema.untagged := rfl
  have hStart :
      startDrafts s.schema.untagged = startDrafts s.schema :=
    rfl
  have hDefaults (d : Drafts) :
      s.untagged.applyDefaults ev d = s.applyDefaults ev d := by
    unfold applyDefaults
    rw [hSchema]
    simp only [Schema.untagged, s.placeDefaults_untagged hEv]
    rfl
  unfold resolve resolveList
  simp only [hPredicates, hSchema, hStart,
    s.schema.validate_untagged, s.placePredicates_untagged hEv,
    hDefaults]

/-
  Statements that differ in no more than the collations of
  what they read: of their literals, and of the strings in
  user variables, fields and stored defaults.
-/
structure SameButTags
    (s t : Statement) : Prop where
  maxDepth : s.config.maxDepth = t.config.maxDepth
  predicates : s.predicates? = t.predicates?
  schema : s.schema.untagged = t.schema.untagged
  collation : s.session.collation = t.session.collation
  userVariables :
    ∀ name,
      (s.session.userVariables.get? name).map Value.untagged =
        (t.session.userVariables.get? name).map Value.untagged
  request : s.request = t.request
  prepared : s.prepared? = t.prepared?
  fields :
    ∀ name,
      (s.fields.table.get? name).map Value.untagged =
        (t.fields.table.get? name).map Value.untagged
  isInsert : s.isInsert = t.isInsert

/-
  Statements that differ by collations alone are the same
  by name without them.
-/
theorem SameButTags.sameByName_untagged
    {s t : Statement}
    (h : s.SameButTags t) :
    s.untagged.SameByName t.untagged where
  config := by
    unfold untagged
    dsimp only
    rw [h.maxDepth]
  predicates := h.predicates
  schema := h.schema
  collation := h.collation
  userVariables := by
    intro name
    have hName := h.userVariables name
    rw [← NameTable.get?_untagged, ← NameTable.get?_untagged]
      at hName
    exact hName
  request := h.request
  prepared := h.prepared
  fields := by
    intro name
    have hName := h.fields name
    rw [← NameTable.get?_untagged, ← NameTable.get?_untagged]
      at hName
    exact hName
  isInsert := h.isInsert

/-
  Only the collation of the session counts: statements that
  differ in other collations have the same ranges or the
  same error, and the same notices.
-/
theorem resolve_eq_of_sameButTags
    {s t : Statement}
    (h : s.SameButTags t) :
    s.resolve .builtin = t.resolve .builtin := by
  have hSame :=
    h.sameByName_untagged.resolve_eq Evaluator.looksUp_builtin
  rwa [s.resolve_untagged Evaluator.ignoresTags_builtin,
    t.resolve_untagged Evaluator.ignoresTags_builtin] at hSame

/-
  An `INSERT` all of whose strings come under one collation
  but the session's.  The region is a user variable, and the
  code is left to its default.
-/
def regionInsert
    (c : Collation) : Statement where
  config := ⟨c, 32⟩
  predicates? :=
    some [some ⟨0, 0, 0, .one, .eq, .placeholder 0, false⟩]
  schema :=
    ⟨.one, ["region", "code"], [],
      [⟨"region", .one, 0, false, none, none, none, [], true⟩,
        ⟨"code", .one, 1, false, none, none, none,
          2 :: (LittleEndian.encode 2 c.id.toNat ++
            [3, 0, 0, 0, 0x27, 0x61, 0x27]),
          false⟩],
      .oracle⟩
  session :=
    (Session.ofCollation ⟨46⟩).setVariable "r"
      (.text [0x78] c)
  request := ⟨.query, .execute, [], ["r"], []⟩
  prepared? := none
  fields := Fields.insert default "code" (.text [0x79] c)
  isInsert := true

theorem sameButTags_regionInsert
    (c d : Collation) :
    (regionInsert c).SameButTags (regionInsert d) where
  maxDepth := rfl
  predicates := rfl
  schema := rfl
  collation := rfl
  userVariables := by
    intro name
    simp only [regionInsert, Session.setVariable,
      NameTable.get?_insert]
    split <;> rfl
  request := rfl
  prepared := rfl
  fields := by
    intro name
    simp only [regionInsert, Fields.insert,
      NameTable.get?_insert]
    split <;> rfl
  isInsert := rfl

theorem resolve_regionInsert :
    (regionInsert ⟨33⟩).resolve .builtin =
        ⟨.ok ⟨⟨[⟨.text [0x78] ⟨46⟩, .text [0x78] ⟨46⟩⟩,
              ⟨.text [0x61] ⟨46⟩, .text [0x61] ⟨46⟩⟩],
            ⟨true, true⟩⟩, ⟨[], ⟨false, false⟩⟩⟩, []⟩ ∧
      (regionInsert ⟨33⟩).SameButTags (regionInsert ⟨63⟩) ∧
      (regionInsert ⟨33⟩).resolve .builtin =
        (regionInsert ⟨63⟩).resolve .builtin := by
  have hSame := sameButTags_regionInsert ⟨33⟩ ⟨63⟩
  exact ⟨rfl, hSame, resolve_eq_of_sameButTags hSame⟩

end Statement

end PartitionPruning
