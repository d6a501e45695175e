import PartitionPruning.Expr.Eval
import PartitionPruning.Request
import PartitionPruning.Schema.Basic
import PartitionPruning.Session

/-
  Everything that the resolution of one statement reads.

  Key definitions include:
    * `Config`
    * `Statement`
-/

namespace PartitionPruning

/-
  The collation of literals before the session's replaces
  it, and how deep calls may be nested.
-/
structure Config where
  collation : Collation
  maxDepth : UInt64
deriving DecidableEq, Repr

namespace Config

/- Nesting allowed where nothing else is said. -/
def defaultMaxDepth : UInt64 :=
  32

instance : Inhabited Config :=
  ⟨default, defaultMaxDepth⟩

end Config

/-
  A statement and its surroundings.  There are no predicates
  at all where nothing is known about them, and `none` for a
  single predicate that could not be built.
-/
structure Statement where
  config : Config
  predicates? : Option (List (Option Predicate))
  schema : Schema
  session : Session
  request : Request
  prepared? : Option StatementEntry
  fields : Fields
  isInsert : Bool
deriving DecidableEq, Inhabited

namespace Statement

/- What expressions of the statement can see. -/
def scope
    (s : Statement) : Scope :=
  ⟨s.schema.dialect, s.fields, s.config.collation⟩

/- The first of the values that an evaluator gives. -/
def evaluate
    (s : Statement)
    (ev : Evaluator)
    (e : Expr) : Except Failure Value :=
  match ev s.scope e with
  | .error cause => .error (.expr cause)
  | .ok [] => .error (.expr .emptyResult)
  | .ok (v :: _) => .ok v

end Statement

end PartitionPruning
