import PartitionPruning.Expr.Basic
import PartitionPruning.Failure
import PartitionPruning.Predicate

/-
  Operands of predicates as expressions.

  Key definitions include:
    * `Operand.convert`
    * `Operand.toExpr`
-/

namespace PartitionPruning

namespace Operand

mutual

/-
  The expression of an operand inside a call.  Placeholders
  and columns have none.
-/
def convert : Operand → Except Failure Expr
  | int v => .ok (.int v)
  | text bytes => .ok (.text bytes)
  | placeholder index =>
      .error (.placeholderArgument index.toNat)
  | column name => .error (.columnArgument name)
  | call name args =>
      match Func.ofName? name with
      | none => .error (.unknownCall name)
      | some f => do
          let es ← convertArgs args
          .ok (.call f es)

/- The expressions of arguments, from left to right. -/
def convertArgs : List Operand → Except Failure (List Expr)
  | [] => .ok []
  | o :: os => do
      let e ← convert o
      let es ← convertArgs os
      .ok (e :: es)

end

/- The expression of an operand of at most `limit` calls. -/
def toExpr
    (limit : Nat)
    (o : Operand) : Except Failure Expr :=
  if limit < o.depth then
    .error (.expr (.nestingTooDeep o.depth limit))
  else o.convert

end Operand

end PartitionPruning
