import PartitionPruning.Expr.Eval
import PartitionPruning.Proofs.Steps

/-
  Evaluation and the collations of its operands.

  Functions look at the bytes of strings and never at their
  collations.  An evaluation that sees other collations
  therefore gives the same value or error, the collation of
  the value aside.

  Key definitions include:
    * `Value.untagged`
    * `NameTable.untagged`
    * `Scope.untagged`

  Main declarations:
    * `Func.apply_untagged`
    * `Expr.eval_untagged`
-/

namespace PartitionPruning

------------------------------------------------------------
-- Values
------------------------------------------------------------

namespace Value

/- A value under a collation that stands for none. -/
def untagged
    (v : Value) : Value :=
  v.withCollation ⟨0⟩

/- A collation that is set anew hides the one before it. -/
@[simp]
theorem untagged_withCollation
    (v : Value)
    (c : Collation) :
    v.untagged.withCollation c = v.withCollation c :=
  withCollation_withCollation ⟨0⟩ c v

/- There is no collation left to take off. -/
theorem map_untagged_map_untagged
    {ε : Type}
    (step : Except ε Value) :
    (step.map untagged).map untagged = step.map untagged := by
  cases step with
  | error cause => rfl
  | ok v => cases v <;> rfl

@[simp]
theorem isNull_untagged
    (v : Value) :
    v.untagged.isNull = v.isNull := by
  cases v <;> rfl

@[simp]
theorem text?_untagged
    (v : Value) :
    v.untagged.text? = v.text? := by
  cases v <;> rfl

@[simp]
theorem int?_untagged
    (v : Value) :
    v.untagged.int? = v.int? := by
  cases v <;> rfl

@[simp]
theorem display_untagged
    (v : Value) :
    v.untagged.display = v.display := by
  cases v <;> rfl

end Value

------------------------------------------------------------
-- Functions
------------------------------------------------------------

namespace Func

/- A string operand is its bytes, whatever its collation. -/
@[simp]
theorem textOperand_untagged
    (f : Func)
    (v : Value) :
    f.textOperand v.untagged = f.textOperand v := by
  simp [textOperand]

/-
  A string that stands for an integer is read by its
  bytes.
-/
@[simp]
theorem intOperand_untagged
    (f : Func)
    (v : Value) :
    f.intOperand v.untagged = f.intOperand v := by
  simp [intOperand]

/- A substring is cut by bytes and numbers only. -/
theorem substring_untagged
    (d : Dialect)
    (source start : Value)
    (length? : Option Value) :
    substring d source.untagged start.untagged
        (length?.map Value.untagged) =
      substring d source start length? := by
  cases length? <;> simp [substring]

/- Strings are joined byte for byte. -/
theorem concatenation_untagged
    (vs : List Value) :
    concatenation (vs.map Value.untagged) =
      concatenation vs := by
  induction vs with
  | nil => rfl
  | cons v vs ih => simp [concatenation, ih]

theorem any_isNull_untagged
    (vs : List Value) :
    (vs.map Value.untagged).any Value.isNull =
      vs.any Value.isNull := by
  simp [List.any_map, Function.comp_def]

/- Arithmetic gives integers or `null`. -/
theorem arithmetic_untagged
    (f : Func)
    (left right : Value) :
    f.arithmetic left.untagged right.untagged =
      (f.arithmetic left right).map Value.untagged := by
  unfold arithmetic
  simp only [Value.isNull_untagged, intOperand_untagged]
  split
  · rfl
  · cases f.intOperand left with
    | error cause => rfl
    | ok a =>
        cases f.intOperand right with
        | error cause => rfl
        | ok b =>
            simp only [Steps.ok_bind]
            split
            · rfl
            · cases f.exactly? a.toInt b.toInt <;> rfl

/- What a function gives that passes `null` on. -/
theorem guarded_untagged
    {α : Type}
    {missing : Bool}
    {step : Except ExprError α}
    {give give' : α → Value}
    (h : ∀ a, give' a = (give a).untagged) :
    (if missing = true then .ok .null
      else step >>= fun a => .ok (give' a)) =
      (if missing = true then .ok .null
        else step >>= fun a => .ok (give a) :
        Except ExprError Value).map Value.untagged := by
  split
  · rfl
  · cases step with
    | error cause => rfl
    | ok a => simp [Except.map, h]

/- A function gives the same without collations. -/
theorem applyChecked_untagged
    (s : Scope)
    (fs : Fields)
    (f : Func)
    (args : List Value) :
    f.applyChecked ⟨s.dialect, fs, ⟨0⟩⟩
        (args.map Value.untagged) =
      (f.applyChecked s args).map Value.untagged := by
  generalize hApplied : f.applyChecked s args = applied
  unfold applyChecked at hApplied
  split at hApplied <;> subst hApplied
  · next source start length =>
      have hNull :=
        any_isNull_untagged (source :: start :: length)
      have hHead :
          (length.map Value.untagged).head? =
            length.head?.map Value.untagged :=
        List.head?_map
      simp only [applyChecked, List.map_cons] at hNull ⊢
      rw [hNull, hHead, substring_untagged]
      exact guarded_untagged fun _ => rfl
  · simp only [applyChecked, any_isNull_untagged,
      concatenation_untagged]
    exact guarded_untagged fun _ => rfl
  · simp only [applyChecked, List.map_cons, List.map_nil,
      Value.isNull_untagged, intOperand_untagged]
    exact guarded_untagged fun _ => rfl
  · simp only [applyChecked, List.map_cons, List.map_nil,
      Value.isNull_untagged]
    split <;> rfl
  · simp only [applyChecked, List.map_cons, List.map_nil,
      Value.isNull_untagged, textOperand_untagged]
    exact guarded_untagged fun _ => rfl
  · next left right hSubstr hConcat hNvl =>
      simp only [List.map_cons, List.map_nil]
      rw [applyChecked] <;> try assumption
      exact arithmetic_untagged f left right
  · next hTwo hSubstr hInt hNvl hChar =>
      -- The values are as many as before, so no case applies.
      rw [applyChecked]
      · rfl
      all_goals rcases args with _ | ⟨v, _ | ⟨w, rest⟩⟩
      all_goals simp_all
      intro _ _ _ hFunc
      exact absurd rfl (hSubstr v w rest hFunc rfl rfl)

/-
  The result of a function carries the session's
  collation, which is taken off on the right.
-/
theorem apply_untagged
    (s : Scope)
    (fs : Fields)
    (f : Func)
    (args : List Value) :
    f.apply ⟨s.dialect, fs, ⟨0⟩⟩ (args.map Value.untagged) =
      (f.apply s args).map Value.untagged := by
  unfold apply
  rw [List.length_map]
  cases f.checkArity args.length with
  | error cause => rfl
  | ok _ => exact applyChecked_untagged s fs f args

end Func

------------------------------------------------------------
-- Expressions
------------------------------------------------------------

namespace NameTable

/- The same names with values under no collation. -/
def untagged
    (t : NameTable) : NameTable :=
  ⟨t.entries.map fun e => (e.1, e.2.untagged), by
    simpa [List.map_map, Function.comp_def] using t.nodup⟩

/-
  A name is found with the same value, its collation
  aside.
-/
@[simp]
theorem get?_untagged
    (t : NameTable)
    (name : String) :
    t.untagged.get? name =
      (t.get? name).map Value.untagged := by
  unfold get? untagged
  dsimp only
  induction t.entries with
  | nil => rfl
  | cons e rest ih =>
      rw [List.map_cons, List.lookup_cons, List.lookup_cons]
      split
      · rfl
      · exact ih

end NameTable

/- The same columns with values under no collation. -/
def Fields.untagged
    (fs : Fields) : Fields :=
  ⟨fs.table.untagged⟩

/- What an evaluation may consult, without collations. -/
def Scope.untagged
    (s : Scope) : Scope :=
  ⟨s.dialect, s.fields.untagged, ⟨0⟩⟩

namespace Expr

mutual

/- Without collations an expression has the same value. -/
theorem eval_untagged
    (s : Scope) :
    (e : Expr) →
      e.eval s.untagged = (e.eval s).map Value.untagged
  | int v => rfl
  | text bytes => rfl
  | column name => by
      have hField :
          s.untagged.fields.get? name =
            (s.fields.get? name).map Value.untagged :=
        NameTable.get?_untagged _ _
      simp only [eval, hField]
      cases s.fields.get? name <;> rfl
  | call f args => by
      simp only [eval, evalArgs_untagged s args]
      cases evalArgs s args with
      | error cause => rfl
      | ok values => exact f.apply_untagged s _ values

/-
  Arguments are evaluated in order, and the first error is
  the same under any collation.
-/
theorem evalArgs_untagged
    (s : Scope) :
    (es : List Expr) →
      evalArgs s.untagged es =
        (evalArgs s es).map (List.map Value.untagged)
  | [] => rfl
  | e :: es => by
      simp only [evalArgs, eval_untagged s e,
        evalArgs_untagged s es]
      cases e.eval s with
      | error cause => rfl
      | ok v => cases evalArgs s es <;> rfl

end

end Expr

end PartitionPruning
