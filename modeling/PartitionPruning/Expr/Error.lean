import PartitionPruning.Expr.Func
import PartitionPruning.Expr.Lexeme

/-
  What can go wrong in reading and evaluating expressions.

  Key definitions include:
    * `ParseError`
    * `ParseError.message`
    * `ExprError`
    * `ExprError.message`
-/

namespace PartitionPruning

------------------------------------------------------------
-- Malformed Text
------------------------------------------------------------

/-
  Why text is not an expression.  Positions count characters
  from zero.
-/
inductive ParseError where
  | unterminatedString (start : Nat)
  | unexpectedChar (c : Char) (position : Nat)
  | trailing (found : Lexeme)
  | noNumberAfterMinus (found : Lexeme)
  | noExpression (found : Lexeme)
  | expected (wanted found : Lexeme)
  | badInteger (digits : String)
deriving DecidableEq, Repr

/- The wording of a parse error. -/
def ParseError.message : ParseError → String
  | unterminatedString start =>
      s!"unterminated string starting at {start}"
  | unexpectedChar c position =>
      s!"unexpected character '{c}' at {position}"
  | trailing found =>
      s!"unexpected trailing token {found.display}"
  | noNumberAfterMinus found =>
      s!"expected number after '-', found {found.display}"
  | noExpression found =>
      s!"unexpected token {found.display}"
  | expected wanted found =>
      s!"expected {wanted.display}, found {found.display}"
  | badInteger digits =>
      s!"invalid integer literal: {digits}"

------------------------------------------------------------
-- Errors Of Expressions
------------------------------------------------------------

/- Why an expression has no value. -/
inductive ExprError where
  | unknownFunction (name : String)
  | unsupportedFunction (f : Func)
  | argumentCount (f : Func) (expected actual : Nat)
  | invalidOperand (f : Func) (operand : String)
  | overflow (f : Func) (left right : Int64)
  | divisionByZero
  | unknownField (name : String)
  | nestingTooDeep (depth limit : Nat)
  | malformed (cause : ParseError)
  | emptyResult
deriving DecidableEq, Repr

/- The wording of an expression error. -/
def ExprError.message : ExprError → String
  | unknownFunction name => s!"Unknown function: {name}"
  | unsupportedFunction f =>
      s!"Function {f.name} is not supported here"
  | argumentCount f expected actual =>
      s!"Function {f.name} expects {expected} arguments, " ++
        s!"got {actual}"
  | invalidOperand f operand =>
      s!"Invalid operand for {f.name}: {operand}"
  | overflow f left right =>
      s!"Invalid operand for {f.name}: " ++
        s!"{left.toInt} and {right.toInt} overflow"
  | divisionByZero => "Division by zero"
  | unknownField name => s!"Unknown field: {name}"
  | nestingTooDeep depth limit =>
      s!"Function nesting depth {depth} exceeds limit {limit}"
  | malformed cause => s!"Parse error: {cause.message}"
  | emptyResult => "Expression produced no result"

end PartitionPruning
