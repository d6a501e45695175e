import PartitionPruning.Expr.Func

/-
  Trees of scalar function calls.

  Key definitions include:
    * `Expr`
    * `Expr.depth`
-/

namespace PartitionPruning

/-
  An expression: an integer or a string, a column of the
  statement, or the call of a function.
-/
inductive Expr where
  | int (v : Int64)
  | text (bytes : List UInt8)
  | column (name : String)
  | call (f : Func) (args : List Expr)
deriving Repr, Inhabited

namespace Expr

mutual

/- Calls on the deepest path of an expression. -/
def depth : Expr → Nat
  | call _ args => 1 + depthOfArgs args
  | _ => 0

/- The greatest depth among arguments. -/
def depthOfArgs : List Expr → Nat
  | [] => 0
  | e :: es => Nat.max e.depth (depthOfArgs es)

end

end Expr

end PartitionPruning
