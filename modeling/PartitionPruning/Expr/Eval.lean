import PartitionPruning.Dialect
import PartitionPruning.Expr.Basic
import PartitionPruning.Expr.Error
import PartitionPruning.NameTable

/-
  Evaluation of scalar functions.

  Arguments are evaluated from left to right before the
  function looks at any of them.  A `null` argument makes
  the result `null` for every function but `NVL`.

  Key definitions include:
    * `Fields`
    * `Scope`
    * `Expr.eval`
    * `Expr.evalArgs`
    * `Func.apply`
    * `Evaluator`
-/

namespace PartitionPruning

------------------------------------------------------------
-- What Expressions Can See
------------------------------------------------------------

/-
  The column values of a statement.  Column names are taken
  without regard to ASCII case.
-/
structure Fields where
  table : NameTable
deriving DecidableEq, Inhabited

namespace Fields

/- The value of a column. -/
def get?
    (fs : Fields)
    (column : String) : Option Value :=
  fs.table.get? (CharClass.upper column)

/- Set a column to a value. -/
def insert
    (fs : Fields)
    (column : String)
    (v : Value) : Fields :=
  ⟨fs.table.insert (CharClass.upper column) v⟩

end Fields

/-
  What an evaluation may consult: the dialect, the columns
  of the statement, and the collation of string results.
-/
structure Scope where
  dialect : Dialect
  fields : Fields
  collation : Collation

/-
  A way to evaluate expressions.  It may give any number of
  values, of which callers use the first.
-/
abbrev Evaluator :=
  Scope → Expr → Except ExprError (List Value)

------------------------------------------------------------
-- Operands
------------------------------------------------------------

namespace Func

/- An operand as text. -/
def textOperand
    (f : Func)
    (v : Value) : Except ExprError (List UInt8) :=
  match v.text? with
  | some bytes => .ok bytes
  | none => .error (.invalidOperand f v.display)

/- An operand as an integer. -/
def intOperand
    (f : Func)
    (v : Value) : Except ExprError Int64 :=
  match v.int? with
  | some i => .ok i
  | none => .error (.invalidOperand f v.display)

/-
  The number of arguments of a function: the least and, if
  there is one, the greatest.
-/
def arity? : Func → Option (Nat × Option Nat)
  | substr => some (2, some 3)
  | concat => some (1, none)
  | toInt => some (1, some 1)
  | add => some (2, some 2)
  | sub => some (2, some 2)
  | mul => some (2, some 2)
  | div => some (2, some 2)
  | mod => some (2, some 2)
  | nvl => some (2, some 2)
  | toChar => some (1, some 1)
  | _ => none

/- The number of arguments suits the function. -/
def checkArity
    (f : Func)
    (actual : Nat) : Except ExprError Unit :=
  match f.arity? with
  | none => .error (.unsupportedFunction f)
  | some (least, greatest?) =>
      if actual < least then
        .error (.argumentCount f least actual)
      else
        match greatest? with
        | none => .ok ()
        | some greatest =>
            if greatest < actual then
              .error (.argumentCount f greatest actual)
            else .ok ()

------------------------------------------------------------
-- Text Functions
------------------------------------------------------------

/-
  The bytes of a text from a position on, at most `length?`
  of them.  A position outside the text gives the empty
  text, before the length is looked at.
-/
def substring
    (d : Dialect)
    (source start : Value)
    (length? : Option Value) :
    Except ExprError (List UInt8) := do
  let bytes ← substr.textOperand source
  let first ← substr.intOperand start
  let p := d.position bytes.length first.toInt
  if p < 1 ∨ (bytes.length : Int) < p then .ok []
  else do
    let tail := bytes.drop (p - 1).toNat
    match length? with
    | none => .ok tail
    | some v => do
        let n ← substr.intOperand v
        .ok (tail.take n.toInt.toNat)

/- The texts of operands one after another. -/
def concatenation :
    List Value → Except ExprError (List UInt8)
  | [] => .ok []
  | v :: vs => do
      let bytes ← concat.textOperand v
      let rest ← concatenation vs
      .ok (bytes ++ rest)

------------------------------------------------------------
-- Arithmetic
------------------------------------------------------------

/-
  The exact result of an arithmetic function, if it is a
  64-bit integer.  Quotients are cut toward zero, and a
  remainder is defined where its quotient is.
-/
def exactly?
    (f : Func)
    (a b : Int) : Option Int64 :=
  match f with
  | add => Integer.narrow? (a + b)
  | sub => Integer.narrow? (a - b)
  | mul => Integer.narrow? (a * b)
  | div => Integer.narrow? (a.tdiv b)
  | mod =>
      (Integer.narrow? (a.tdiv b)).bind fun _ =>
        Integer.narrow? (a.tmod b)
  | _ => none

/- An arithmetic function of two operands. -/
def arithmetic
    (f : Func)
    (left right : Value) : Except ExprError Value := do
  if left.isNull || right.isNull then .ok .null
  else do
    let a ← f.intOperand left
    let b ← f.intOperand right
    if (f = div ∨ f = mod) ∧ b = 0 then
      .error .divisionByZero
    else
      match f.exactly? a.toInt b.toInt with
      | some v => .ok (.int v)
      | none => .error (.overflow f a b)

------------------------------------------------------------
-- Application
------------------------------------------------------------

/- A function applied to as many arguments as it takes. -/
def applyChecked
    (s : Scope)
    (f : Func)
    (args : List Value) : Except ExprError Value :=
  match f, args with
  | substr, source :: start :: length => do
      if args.any Value.isNull then .ok .null
      else do
        let bytes ←
          substring s.dialect source start length.head?
        .ok (.text bytes s.collation)
  | concat, args => do
      if args.any Value.isNull then .ok .null
      else do
        let bytes ← concatenation args
        .ok (.text bytes s.collation)
  | toInt, [v] => do
      if v.isNull then .ok .null
      else do
        let i ← toInt.intOperand v
        .ok (.int i)
  | nvl, [v, fallback] =>
      .ok (if v.isNull then fallback else v)
  | toChar, [v] => do
      if v.isNull then .ok .null
      else do
        let bytes ← toChar.textOperand v
        .ok (.text bytes s.collation)
  | f, [left, right] => f.arithmetic left right
  | f, _ => .error (.unsupportedFunction f)

/- A function applied to argument values. -/
def apply
    (s : Scope)
    (f : Func)
    (args : List Value) : Except ExprError Value := do
  f.checkArity args.length
  applyChecked s f args

end Func

------------------------------------------------------------
-- Evaluation
------------------------------------------------------------

namespace Expr

mutual

/- The value of an expression. -/
def eval
    (s : Scope) : Expr → Except ExprError Value
  | int v => .ok (.int v)
  | text bytes => .ok (.text bytes s.collation)
  | column name =>
      match s.fields.get? name with
      | some v => .ok v
      | none => .error (.unknownField name)
  | call f args => do
      let values ← evalArgs s args
      f.apply s values

/- The values of arguments, from left to right. -/
def evalArgs
    (s : Scope) :
    List Expr → Except ExprError (List Value)
  | [] => .ok []
  | e :: es => do
      let v ← eval s e
      let vs ← evalArgs s es
      .ok (v :: vs)

end

end Expr

/- The evaluator of scalar functions, which gives one value. -/
def Evaluator.builtin : Evaluator :=
  fun s e => (e.eval s).map fun v => [v]

/- An evaluator that gives the same values for everything. -/
def Evaluator.constant
    (values : List Value) : Evaluator :=
  fun _ _ => .ok values

end PartitionPruning
