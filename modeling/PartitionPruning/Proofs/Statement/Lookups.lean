import PartitionPruning.Proofs.Steps
import PartitionPruning.Statement.Resolution

/-
  Statements that agree on every name.

  A resolution looks user variables and fields up by their
  names and never goes through their tables in order.  So
  statements whose tables give every name the same value
  are resolved alike.

  Key definitions include:
    * `Evaluator.LooksUp`
    * `Statement.SameByName`

  Main declarations:
    * `Evaluator.looksUp_builtin`
    * `Statement.SameByName.predicateValue_eq`
    * `Statement.SameByName.keyDefault?_eq`
    * `Statement.SameByName.resolve_eq`
-/

namespace PartitionPruning

------------------------------------------------------------
-- Evaluation
------------------------------------------------------------

namespace Expr

variable {d : Dialect}
variable {fs gs : Fields}
variable {c : Collation}

mutual

/- An expression looks its columns up by their names. -/
theorem eval_of_sameFields
    (h : ∀ column, fs.get? column = gs.get? column) :
    (e : Expr) → e.eval ⟨d, fs, c⟩ = e.eval ⟨d, gs, c⟩
  | int v => rfl
  | text bytes => rfl
  | column name => by
      simp only [eval, h]
  | call f args => by
      simp only [eval, evalArgs_of_sameFields h args]
      rfl

/- Arguments look columns up by name as well. -/
theorem evalArgs_of_sameFields
    (h : ∀ column, fs.get? column = gs.get? column) :
    (es : List Expr) →
      evalArgs ⟨d, fs, c⟩ es = evalArgs ⟨d, gs, c⟩ es
  | [] => rfl
  | e :: es => by
      simp only [evalArgs, eval_of_sameFields h e,
        evalArgs_of_sameFields h es]

end

end Expr

namespace Evaluator

/- The evaluator looks fields up by their names. -/
def LooksUp
    (ev : Evaluator) : Prop :=
  ∀ (d : Dialect) (fs gs : Fields) (c : Collation) (e : Expr),
    (∀ column, fs.get? column = gs.get? column) →
      ev ⟨d, fs, c⟩ e = ev ⟨d, gs, c⟩ e

/- The evaluator sees a table by its names only. -/
theorem looksUp_builtin :
    builtin.LooksUp := by
  intro d fs gs c e h
  unfold builtin
  rw [Expr.eval_of_sameFields h]

end Evaluator

------------------------------------------------------------
-- Statements
------------------------------------------------------------

namespace Statement

variable {s t : Statement}
variable {ev : Evaluator}

/-
  Statements with the same parts, except that their tables
  need only give every name the same value.
-/
structure SameByName
    (s t : Statement) : Prop where
  config : s.config = t.config
  predicates : s.predicates? = t.predicates?
  schema : s.schema = t.schema
  collation : s.session.collation = t.session.collation
  userVariables :
    ∀ name,
      s.session.userVariables.get? name =
        t.session.userVariables.get? name
  request : s.request = t.request
  prepared : s.prepared? = t.prepared?
  fields :
    ∀ name,
      s.fields.table.get? name = t.fields.table.get? name
  isInsert : s.isInsert = t.isInsert

namespace SameByName

/- An expression consults the fields by name. -/
theorem evaluate_eq
    (h : s.SameByName t)
    (hEv : ev.LooksUp)
    (e : Expr) :
    s.evaluate ev e = t.evaluate ev e := by
  have hFields (column : String) :
      s.fields.get? column = t.fields.get? column :=
    h.fields (CharClass.upper column)
  have hScope :
      ev s.scope e = ev t.scope e := by
    unfold scope
    rw [h.schema, h.config]
    exact hEv _ _ _ _ _ hFields
  unfold evaluate
  rw [hScope]

/- A user variable is found by its name. -/
theorem value_eq
    (h : s.SameByName t)
    (name : String) :
    s.session.value name = t.session.value name := by
  unfold Session.value
  rw [h.userVariables]

/- Only parameters of variables consult a table. -/
theorem param_eq
    (h : s.SameByName t)
    (index : Nat) :
    s.param index = t.param index := by
  unfold param Binding.variableParam
  simp only [h.request, h.prepared, h.value_eq]

theorem bind_eq
    (h : s.SameByName t)
    (index : Nat) :
    s.bind index = t.bind index := by
  unfold bind
  simp only [h.request, h.config, h.param_eq]

/- An operand is a literal, is bound, or is evaluated. -/
theorem operandValue_eq
    (h : s.SameByName t)
    (hEv : ev.LooksUp)
    (o : Operand) :
    s.operandValue ev o = t.operandValue ev o := by
  unfold operandValue
  simp only [h.config, h.bind_eq, h.evaluate_eq hEv]

/-
  The value of a predicate consults tables through its
  operand only, since schemas are the same.
-/
theorem predicateValue_eq
    (h : s.SameByName t)
    (hEv : ev.LooksUp)
    (p : Predicate) :
    s.predicateValue ev p = t.predicateValue ev p := by
  have hDerived (v : Value) :
      s.derived p v = t.derived p v := by
    unfold derived
    rw [h.schema]
  unfold predicateValue
  simp only [h.operandValue_eq hEv, h.schema, hDerived,
    h.collation]

/-
  A run over the predicates leaves the same drafts and the
  same notices.
-/
theorem placePredicates_eq
    (h : s.SameByName t)
    (hEv : ev.LooksUp)
    (d : Drafts)
    (i : Nat)
    (predicates : List (Option Predicate)) :
    s.placePredicates ev d i predicates =
      t.placePredicates ev d i predicates := by
  have hPlace (d : Drafts) (i : Nat) (p? : Option Predicate) :
      s.placePredicate ev d i p? =
        t.placePredicate ev d i p? := by
    unfold placePredicate failureNotice
    simp only [h.predicateValue_eq hEv, h.request]
  induction predicates generalizing d i with
  | nil => rfl
  | cons p? rest ih =>
      simp only [placePredicates, hPlace, ih]

/-
  A stored default may be an expression, which consults
  the fields.
-/
theorem defaultValue_eq
    (h : s.SameByName t)
    (hEv : ev.LooksUp)
    (stored : List UInt8) :
    s.defaultValue ev stored = t.defaultValue ev stored := by
  have hText (text : List UInt8) :
      s.textDefault ev text = t.textDefault ev text := by
    unfold textDefault
    simp only [h.config, h.evaluate_eq hEv]
  unfold defaultValue
  simp only [h.schema, hText, h.collation]

theorem keyDefault?_eq
    (h : s.SameByName t)
    (hEv : ev.LooksUp)
    (i : Nat)
    (key : PartKey) :
    s.keyDefault? ev i key = t.keyDefault? ev i key := by
  unfold keyDefault?
  simp only [h.schema, h.defaultValue_eq hEv]

/-
  A run over the keys leaves the same drafts or fails for
  the same reason.
-/
theorem placeDefaults_eq
    (h : s.SameByName t)
    (hEv : ev.LooksUp)
    (i : Nat)
    (keys : List PartKey)
    (d : Drafts) :
    s.placeDefaults ev i keys d =
      t.placeDefaults ev i keys d := by
  induction keys generalizing i d with
  | nil => rfl
  | cons key rest ih =>
      simp only [placeDefaults, h.keyDefault?_eq hEv, ih]

/- Such statements are resolved alike, notices included. -/
theorem resolve_eq
    (h : s.SameByName t)
    (hEv : ev.LooksUp) :
    s.resolve ev = t.resolve ev := by
  unfold resolve resolveList applyDefaults
  simp only [h.predicates, h.schema, h.isInsert,
    h.placePredicates_eq hEv, h.placeDefaults_eq hEv]

end SameByName

end Statement

end PartitionPruning
