import PartitionPruning.Proofs.Statement.Drafting
import PartitionPruning.Proofs.Wire.PrepareExecute

/-
  Statements with literals in place of placeholders.

  A client sends arguments in a packet or sets them as user
  variables.  Either way the ranges of a statement are those
  of the statement that has the arguments as literals.

  Key definitions include:
    * `Literal`
    * `Literal.IsHeldAs`
    * `Statement.Carries`
    * `Statement.denoted?`
    * `Statement.withLiterals`

  Main declarations:
    * `Statement.gives_param`
    * `Statement.gives_bind`
    * `Statement.narrow_literalFor?`
    * `Statement.result_withLiterals`
-/

namespace PartitionPruning

------------------------------------------------------------
-- Collations Of Derived Values
------------------------------------------------------------

/- A source is derived from regardless of its collation. -/
theorem PartKey.derive_withCollation
    (source : PartKey)
    (d : Dialect)
    (v : Value)
    (c : Collation) :
    source.derive d (v.withCollation c) =
      (source.derive d v).map (·.withCollation c) := by
  unfold PartKey.derive
  cases source.generator? with
  | none => rfl
  | some g =>
      dsimp only
      split
      · cases v <;> rfl
      · rfl

namespace Statement

variable {s : Statement}
variable {ev : Evaluator}

/- Deriving a value leaves its collation as it is. -/
theorem derived_withCollation
    (s : Statement)
    (p : Predicate)
    (v : Value)
    (c : Collation) :
    s.derived p (v.withCollation c) =
      (s.derived p v).map (·.withCollation c) := by
  unfold derived
  cases s.schema.keys[p.key.toNat]? with
  | none => rfl
  | some key =>
      dsimp only
      split
      · rfl
      · cases key.target? with
        | none => rfl
        | some target =>
            dsimp only
            cases s.schema.keys[target.toNat]? with
            | none => rfl
            | some generated =>
                dsimp only
                split
                · exact key.derive_withCollation _ v c
                · rfl

/- What a predicate makes of the value of its operand. -/
def compared
    (s : Statement)
    (p : Predicate)
    (v : Value) : Except Failure Value := do
  let v ←
    if p.fromRowId = false ∧ s.schema.hasGeneratedKey = true then
      s.derived p v
    else .ok v
  .ok (v.withCollation s.session.collation)

/- The value of an operand is what is compared. -/
theorem predicateValue_eq_bind
    (s : Statement)
    (ev : Evaluator)
    (p : Predicate) :
    s.predicateValue ev p =
      (s.operandValue ev p.operand >>= s.compared p) :=
  rfl

/- The collation of the operand's value makes no difference. -/
theorem compared_withCollation
    (s : Statement)
    (p : Predicate)
    (v : Value)
    (c : Collation) :
    s.compared p (v.withCollation c) = s.compared p v := by
  unfold compared
  split
  · rw [derived_withCollation]
    cases s.derived p v with
    | error cause => rfl
    | ok w => simp [Except.map]
  · simp

/-
  Operands with the same value, collations aside, give a
  predicate the same value.
-/
theorem predicateValue_congr
    {p : Predicate}
    {o : Operand}
    {v w : Value}
    (hOld : s.operandValue ev p.operand = .ok v)
    (hNew : s.operandValue ev o = .ok w)
    (hSame :
      v.withCollation s.session.collation =
        w.withCollation s.session.collation) :
    s.predicateValue ev { p with operand := o } =
      s.predicateValue ev p := by
  have hOperand :
      s.compared { p with operand := o } w = s.compared p w :=
    rfl
  rw [predicateValue_eq_bind, predicateValue_eq_bind, hOld,
    hNew, Steps.ok_bind, Steps.ok_bind, hOperand,
    ← s.compared_withCollation p w s.session.collation,
    ← hSame, compared_withCollation]

end Statement

------------------------------------------------------------
-- Literals
------------------------------------------------------------

/- An argument of a statement: an integer or a string. -/
inductive Literal where
  | int (v : Int64)
  | text (bytes : List UInt8)
deriving DecidableEq, Repr

namespace Literal

/- The literal as it stands in a predicate. -/
def operand : Literal → Operand
  | int v => .int v
  | text bytes => .text bytes

/- The value of the literal under a collation. -/
def value
    (c : Collation) : Literal → Value
  | int v => .int v
  | text bytes => .text bytes c

/- A literal has the collation that is asked for last. -/
@[simp]
theorem withCollation_value
    (l : Literal)
    (c d : Collation) :
    (l.value c).withCollation d = l.value d := by
  cases l <;> rfl

/-
  What a user variable holds that is set to the literal.  A
  string keeps the quotes that it was written in.
-/
inductive IsHeldAs : Literal → Value → Prop where
  | int (v : Int64) :
      IsHeldAs (.int v) (.int v)
  | text
      (bytes : List UInt8)
      (c : Collation)
      (quote : UInt8)
      (isQuote : quote = 0x27 ∨ quote = 0x22) :
      IsHeldAs (.text bytes)
        (.text (quote :: (bytes ++ [quote])) c)

/- Taking the quotes off leaves the literal. -/
theorem IsHeldAs.unquoted
    {l : Literal}
    {v : Value}
    (h : l.IsHeldAs v) :
    ∃ c, Binding.unquoted v = l.value c := by
  cases h with
  | int v => exact ⟨default, rfl⟩
  | text bytes c quote isQuote =>
      refine ⟨c, ?_⟩
      simp [Binding.unquoted, Binding.stripQuotes, isQuote,
        value]

/-
  A step gives the literal, under whichever collation, or
  fails where there is none.
-/
def IsGivenBy
    (l? : Option Literal)
    (step : Except Failure Value) : Prop :=
  match l? with
  | some l => ∃ c, step = .ok (l.value c)
  | none => ∃ cause, step = .error cause

end Literal

theorem Content.integerFits_toInt
    (v : Int64) :
    IntegerFits 8 false v.toInt := by
  have hLower := v.le_toInt
  have hUpper := v.toInt_lt
  have hSpan : LittleEndian.span 8 = 2 ^ 64 := by decide
  rw [IntegerFits, if_neg Bool.false_ne_true, hSpan]
  omega

namespace Literal

/-
  The argument for a literal: a signed integer of eight
  bytes, or a string.
-/
def argument : Literal → Argument
  | int v =>
      ⟨⟨.longLong, false⟩, some (.integer v.toInt), by
        simpa [Content.Fits, FieldType.form]
          using Content.integerFits_toInt v⟩
  | text bytes =>
      ⟨⟨.varString, false⟩, some (.text bytes), by
        simp [Content.Fits, FieldType.form]⟩

/- A literal that is sent as an argument is read back. -/
theorem value?_argument
    (l : Literal) :
    l.argument.value? = some (l.value default) := by
  cases l with
  | int v =>
      simp [argument, Argument.value?, Content.value?, value]
  | text bytes => rfl

end Literal

/- The arguments of a packet are literals. -/
def ExecutePacket.Holds
    (p : ExecutePacket)
    (args : List Literal) : Prop :=
  p.args.map Argument.value? =
    args.map fun l => some (l.value default)

namespace ExecutePacket

variable {p : ExecutePacket}
variable {args : List Literal}

/- A packet with any literals, which sends their types. -/
def ofLiterals
    (args : List Literal) : ExecutePacket where
  header := List.replicate Packet.headerSize 0
  binding := .sent
  args := args.map Literal.argument
  trailing := []
  length_header := List.length_replicate

theorem holds_ofLiterals
    (args : List Literal) :
    (ofLiterals args).Holds args := by
  simp [Holds, ofLiterals, Literal.value?_argument]

/- A packet has as many arguments as literals. -/
theorem Holds.length
    (h : p.Holds args) :
    p.args.length = args.length := by
  simpa using congrArg List.length h

/- A packet has an argument for each of the literals. -/
theorem Holds.exists_arg
    (h : p.Holds args)
    {i : Nat}
    {l : Literal}
    (hArg : args[i]? = some l) :
    ∃ a, p.args[i]? = some a ∧
      a.value? = some (l.value default) := by
  have hGet := congrArg (fun values => values[i]?) h
  simpa [hArg] using hGet

end ExecutePacket

------------------------------------------------------------
-- Ways To Carry Arguments
------------------------------------------------------------

namespace Statement

open Literal (IsGivenBy)

/- The types that are declared for the parameters, if any. -/
def declaredTypes
    (s : Statement) : List ParamType :=
  match s.prepared? with
  | some entry => entry.paramTypes
  | none => []

/-
  A statement carries arguments: in an execute packet, in a
  packet that prepares and executes, or in the variables
  that an `EXECUTE` names.
-/
inductive Carries
    (s : Statement)
    (args : List Literal) : Prop where
  | executed
      (entry : StatementEntry)
      (p : ExecutePacket)
      (command : s.request.command = .execute)
      (prepared : s.prepared? = some entry)
      (count : entry.paramCount.toNat = args.length)
      (types : p.TypesKnown entry.paramTypes)
      (holds : p.Holds args)
      (payload : s.request.payload = p.encode)
      (size : p.encode.length ≤ Block.greatestSize)
  | preparedAtOnce
      (p : PrepareExecutePacket)
      (command : s.request.command = .prepareExecute)
      (types : p.TypesKnown s.declaredTypes)
      (holds : p.Holds args)
      (payload : s.request.payload = p.encode)
      (size : p.encode.length ≤ Block.greatestSize)
  | named
      (command : s.request.command = .query)
      (kind : s.request.kind.isExecute = true)
      (count : s.request.variableNames.length = args.length)
      (held :
        ∀ (i : Nat) (name : String) (l : Literal),
          s.request.variableNames[i]? = some name →
          args[i]? = some l →
            ∃ v, s.session.value name = .ok v ∧
              l.IsHeldAs v)

variable {s : Statement}
variable {args : List Literal}

/- An execute packet gives what it holds. -/
theorem gives_executeParam
    {entry : StatementEntry}
    {p : ExecutePacket}
    (hCount : entry.paramCount.toNat = args.length)
    (hTypes : p.TypesKnown entry.paramTypes)
    (hHolds : p.Holds args)
    (hSize : p.encode.length ≤ Block.greatestSize)
    (i : Nat) :
    IsGivenBy args[i]?
      (Binding.executeParam (some entry) p.encode i) := by
  rw [← hHolds.length] at hCount
  simp only [Binding.executeParam, hCount]
  cases hArg : args[i]? with
  | none =>
      have hBeyond : p.args.length ≤ i := by
        rw [hHolds.length]
        exact List.getElem?_eq_none_iff.mp hArg
      exact ⟨_, if_pos hBeyond⟩
  | some l =>
      rcases hHolds.exists_arg hArg with ⟨a, hGet, hValue⟩
      have hIndex : ¬ p.args.length ≤ i :=
        Nat.not_le.mpr (List.getElem?_eq_some_iff.mp hGet).1
      refine ⟨default, ?_⟩
      rw [if_neg hIndex, ExecutePacket.encode_eq,
        Packet.executeParam_frame _ _ _ p.length_header,
        if_neg hIndex, ExecutePacket.block,
        ExecutePacket.param_encode hTypes hSize hGet hValue]
      rfl

/- A packet that prepares and executes gives what it holds. -/
theorem gives_prepareExecuteParam
    {p : PrepareExecutePacket}
    (hTypes : p.TypesKnown s.declaredTypes)
    (hHolds : p.Holds args)
    (hSize : p.encode.length ≤ Block.greatestSize)
    (i : Nat) :
    IsGivenBy args[i]?
      (Binding.prepareExecuteParam s.prepared? p.encode
        i) := by
  have hParam :
      Binding.prepareExecuteParam s.prepared? p.encode i =
        Binding.ofPacket
          (Packet.prepareExecuteParam s.declaredTypes p.encode
            i) := rfl
  rw [hParam]
  cases hArg : args[i]? with
  | none =>
      have hBeyond : p.args.length ≤ i := by
        rw [hHolds.length]
        exact List.getElem?_eq_none_iff.mp hArg
      rw [PrepareExecutePacket.prepareExecuteParam_encode_eq
        _ i hSize, if_pos hBeyond]
      exact ⟨_, rfl⟩
  | some l =>
      rcases hHolds.exists_arg hArg with ⟨a, hGet, hValue⟩
      rw [PrepareExecutePacket.prepareExecuteParam_encode
        hTypes hSize hGet hValue]
      exact ⟨default, rfl⟩

/- Variables give what they hold, without its quotes. -/
theorem gives_variableParam
    {session : Session}
    {names : List String}
    (hCount : names.length = args.length)
    (hHeld :
      ∀ (i : Nat) (name : String) (l : Literal),
        names[i]? = some name → args[i]? = some l →
          ∃ v, session.value name = .ok v ∧ l.IsHeldAs v)
    (i : Nat) :
    IsGivenBy args[i]?
      (Binding.variableParam session names i) := by
  unfold Binding.variableParam
  cases hArg : args[i]? with
  | none =>
      have hBeyond : names[i]? = none := by
        rw [List.getElem?_eq_none_iff, hCount]
        exact List.getElem?_eq_none_iff.mp hArg
      rw [hBeyond]
      exact ⟨_, rfl⟩
  | some l =>
      have hLess : i < names.length := by
        rw [hCount]
        exact (List.getElem?_eq_some_iff.mp hArg).1
      have hName := List.getElem?_eq_getElem hLess
      rcases hHeld i _ l hName hArg with ⟨v, hValue, hHeldAs⟩
      rcases hHeldAs.unquoted with ⟨c, hUnquoted⟩
      rw [hName]
      exact ⟨c, by simp [hValue, hUnquoted, Except.map]⟩

/- Each parameter is the argument at its index. -/
theorem gives_param
    (h : s.Carries args)
    (i : Nat) :
    IsGivenBy args[i]? (s.param i) := by
  cases h with
  | executed entry p command prepared count types holds
      payload size =>
      simp only [param, command, prepared, payload]
      exact gives_executeParam count types holds size i
  | preparedAtOnce p command types holds payload size =>
      simp only [param, command, payload]
      exact gives_prepareExecuteParam types holds size i
  | named command kind count held =>
      simp only [param, command, kind, if_true]
      exact gives_variableParam count held i

------------------------------------------------------------
-- Placeholders
------------------------------------------------------------

/-
  The literal that the placeholder at an index stands for:
  an argument, or in a `CALL` what stands at that index of
  the call.
-/
def denoted?
    (s : Statement)
    (args : List Literal)
    (i : Nat) : Option Literal :=
  if s.request.kind.isCall then
    match s.request.callArguments[i]? with
    | none => none
    | some (.int v) => some (.int v)
    | some (.text t) => some (.text (Utf8.bytes t))
    | some (.placeholder j) => args[j.toNat]?
  else args[i]?

/- Each placeholder is bound to the literal it stands for. -/
theorem gives_bind
    (h : s.Carries args)
    (i : Nat) :
    IsGivenBy (s.denoted? args i) (s.bind i) := by
  unfold denoted? bind
  split
  · cases s.request.callArguments[i]? with
    | none => exact ⟨_, rfl⟩
    | some a =>
        cases a with
        | int v => exact ⟨default, rfl⟩
        | text t => exact ⟨s.config.collation, rfl⟩
        | placeholder j => exact gives_param h j.toNat
  · exact gives_param h i

/-
  A predicate with the literal in place of its placeholder,
  and none where the placeholder stands for nothing.
-/
def literalFor?
    (s : Statement)
    (args : List Literal)
    (p : Predicate) : Option Predicate :=
  match p.operand with
  | .placeholder i =>
      (s.denoted? args i.toNat).map fun l =>
        { p with operand := l.operand }
  | _ => some p

/- The statement with literals for all its placeholders. -/
def withLiterals
    (s : Statement)
    (args : List Literal) : Statement :=
  { s with
    predicates? :=
      s.predicates?.map
        (List.map (Option.bind · (s.literalFor? args))) }

/- One predicate narrows the drafts as its literal does. -/
theorem narrow_literalFor?
    (h : s.Carries args)
    (ev : Evaluator)
    (d : Drafts)
    (p? : Option Predicate) :
    s.narrow ev d (p?.bind (s.literalFor? args)) =
      s.narrow ev d p? := by
  cases p? with
  | none => rfl
  | some p =>
      cases hOperand : p.operand with
      | placeholder i =>
          have hBind := gives_bind h i.toNat
          have hOld :
              s.operandValue ev p.operand =
                s.bind i.toNat := by
            rw [hOperand]
            rfl
          simp only [Option.bind_some, literalFor?, hOperand]
          cases hDenoted : s.denoted? args i.toNat with
          | none =>
              rw [hDenoted] at hBind
              rcases hBind with ⟨cause, hCause⟩
              have hFails :
                  s.predicateValue ev p = .error cause := by
                simp [predicateValue, hOld, hCause]
              rw [narrow_of_error hFails]
              rfl
          | some l =>
              rw [hDenoted] at hBind
              rcases hBind with ⟨c, hValue⟩
              have hNew :
                  s.operandValue ev l.operand =
                    .ok (l.value s.config.collation) := by
                cases l <;> rfl
              have hSame :
                  s.predicateValue ev
                      { p with operand := l.operand } =
                    s.predicateValue ev p :=
                predicateValue_congr (hOld.trans hValue) hNew
                  (by simp)
              simp only [Option.map_some, narrow, hSame]
      | int v => simp [literalFor?, hOperand]
      | text bytes => simp [literalFor?, hOperand]
      | call name args => simp [literalFor?, hOperand]
      | column name => simp [literalFor?, hOperand]

/-
  However its arguments arrive, a statement has the ranges
  that it has with literals.
-/
theorem result_withLiterals
    (h : s.Carries args)
    (ev : Evaluator) :
    (s.resolve ev).result =
      ((s.withLiterals args).resolve ev).result := by
  cases hPredicates : s.predicates? with
  | none => simp [resolve, withLiterals, hPredicates]
  | some predicates =>
      have hOld : s = s.withPredicates predicates := by
        unfold withPredicates
        rw [← hPredicates]
      have hNew :
          s.withLiterals args =
            s.withPredicates
              (predicates.map
                (Option.bind · (s.literalFor? args))) := by
        simp [withPredicates, withLiterals, hPredicates]
      have hSame :
          ((s.withPredicates predicates).resolve ev).result =
            ((s.withPredicates
                (predicates.map
                  (Option.bind · (s.literalFor? args)))).resolve
              ev).result := by
        apply result_congr
        intro start _
        simp only [List.foldl_map, narrow_literalFor? h ev]
      rw [hNew, ← hSame, ← hOld]

/- An integer and a string. -/
def callValues : List Literal :=
  [.int 7, .text [0x6D]]

/-
  A call whose arguments are the second parameter, a number,
  and a parameter that does not exist.  Its last predicate
  asks for a fourth argument.
-/
def tieredCall
    (request : Request)
    (prepared? : Option StatementEntry)
    (session : Session) : Statement where
  config := default
  predicates? :=
    some
      [some ⟨0, 0, 0, .one, .eq, .placeholder 0, false⟩,
        some ⟨1, 1, 0, .one, .ge, .placeholder 1, false⟩,
        some ⟨1, 1, 0, .one, .lt, .placeholder 2, false⟩,
        some ⟨1, 1, 0, .one, .le, .placeholder 3, false⟩]
  schema := ⟨.one, ["region", "month"], [], [], .mysql⟩
  session := session
  request :=
    { request with
      callArguments :=
        [.placeholder 1, .int 5, .placeholder 8] }
  prepared? := prepared?
  fields := default
  isInsert := false

/- The call with its values in an execute packet. -/
def executedCall : Statement :=
  tieredCall
    ⟨.execute, .call, [], [],
      (ExecutePacket.ofLiterals callValues).encode⟩
    (some ⟨2, []⟩) (Session.ofCollation ⟨46⟩)

/- A packet with a query and the values. -/
def callPacket : PrepareExecutePacket where
  toExecutePacket := ExecutePacket.ofLiterals callValues
  query := [0x63, 0x61, 0x6C, 0x6C]
  length_args := by decide

/- The call that is prepared and executed at once. -/
def preparedCall : Statement :=
  tieredCall
    ⟨.prepareExecute, .call, [], [], callPacket.encode⟩
    none (Session.ofCollation ⟨46⟩)

/- The call with its values in two variables. -/
def namedCall : Statement :=
  tieredCall
    ⟨.query, .executeCall, [], ["Low", "@high"], []⟩ none
    (((Session.ofCollation ⟨46⟩).setVariable "@low"
        (.int 7)).setVariable "HIGH"
      (.text [0x22, 0x6D, 0x22] ⟨45⟩))

theorem carries_executedCall :
    executedCall.Carries callValues :=
  .executed ⟨2, []⟩ (ExecutePacket.ofLiterals callValues) rfl
    rfl rfl trivial
    (ExecutePacket.holds_ofLiterals callValues) rfl
    (by decide +kernel)

theorem carries_preparedCall :
    preparedCall.Carries callValues :=
  .preparedAtOnce callPacket rfl trivial
    (ExecutePacket.holds_ofLiterals callValues) rfl
    (by decide +kernel)

theorem carries_namedCall :
    namedCall.Carries callValues := by
  have hLow :
      namedCall.session.value "Low" = .ok (.int 7) := by
    unfold namedCall tieredCall
    rw [Session.value_setVariable, if_neg (by decide +kernel),
      Session.value_setVariable, if_pos (by decide +kernel)]
  have hHigh :
      namedCall.session.value "@high" =
        .ok (.text [0x22, 0x6D, 0x22] ⟨45⟩) := by
    unfold namedCall tieredCall
    rw [Session.value_setVariable, if_pos (by decide +kernel)]
  refine .named rfl rfl rfl ?_
  intro i name l hName hArg
  match i with
  | 0 =>
      cases hName
      cases hArg
      exact ⟨_, hLow, .int 7⟩
  | 1 =>
      cases hName
      cases hArg
      exact ⟨_, hHigh, .text [0x6D] ⟨45⟩ 0x22 (Or.inr rfl)⟩
  | _ + 2 => cases hName

theorem result_executedCall :
    (executedCall.Carries callValues ∧
      (executedCall.resolve .builtin).result =
        ((executedCall.withLiterals callValues).resolve
          .builtin).result) ∧
    (preparedCall.Carries callValues ∧
      (preparedCall.resolve .builtin).result =
        ((preparedCall.withLiterals callValues).resolve
          .builtin).result) ∧
    (namedCall.Carries callValues ∧
      (namedCall.resolve .builtin).result =
        ((namedCall.withLiterals callValues).resolve
          .builtin).result) :=
  ⟨⟨carries_executedCall,
      result_withLiterals carries_executedCall .builtin⟩,
    ⟨carries_preparedCall,
      result_withLiterals carries_preparedCall .builtin⟩,
    ⟨carries_namedCall,
      result_withLiterals carries_namedCall .builtin⟩⟩

end Statement

end PartitionPruning
