import PartitionPruning.Expr.Error
import PartitionPruning.Value.Stored
import PartitionPruning.Wire.Error

/-
  Why a value, a predicate or a whole statement can not be
  resolved.

  Key definitions include:
    * `Failure`
    * `Failure.Kind`
    * `Failure.kind`
    * `Failure.text`
    * `Failure.message`
-/

namespace PartitionPruning

------------------------------------------------------------
-- Causes
------------------------------------------------------------

/- The cause of a failure. -/
inductive Failure where
  -- stored values, expressions and packets
  | stored (cause : Stored.Fault)
  | expr (cause : ExprError)
  | packet (cause : WireError)
  | defaultNotText (fault : Utf8.Fault)
  -- operands of predicates
  | columnOperand (column : String)
  | columnArgument (column : String)
  | placeholderArgument (index : Nat)
  | unknownCall (name : String)
  -- values bound to placeholders
  | noCallArgument (index count : Nat)
  | noStatementEntry
  | noParameter (index count : Nat)
  | nothingBoundYet
  | noVariableName (index count : Nat)
  | nothingBound (index : Nat)
  | noVariable (name : String)
  | otherLongData (carried wanted : Nat)
  -- links between partition keys
  | targetNotGenerated (index : Nat) (key : String)
      (target : Nat)
  | targetWithoutGenerator (index : Nat) (key : String)
      (target : Nat)
  | generatedWithoutSource (index : Nat) (key : String)
  | noKey (index count : Nat)
  | noGeneratedKey (target : Nat) (source : String)
  | noGenerator (key : String)
  | unsupportedGenerator (f : Func)
  -- ranges
  | noColumn (index count : Nat)
  | tooManyColumns
  | noRelations
deriving DecidableEq, Repr

namespace Failure

------------------------------------------------------------
-- Kinds
------------------------------------------------------------

/- What callers tell failures apart by. -/
inductive Kind where
  | invalidArgument
  | entryNotFound
  | allocationFailed
  | unexpected
  | unsupportedFunction
deriving DecidableEq, Repr

/- What the message of a failure begins with. -/
def Kind.heading : Kind → String
  | invalidArgument => "Invalid argument"
  | entryNotFound => "Entry not found"
  | allocationFailed => "Allocation failed"
  | unexpected => "Unexpected error"
  | unsupportedFunction => "Unsupported function"

/- The kind of an expression error. -/
def kindOfExpr : ExprError → Kind
  | .unknownFunction _ => .unsupportedFunction
  | .unsupportedFunction _ => .unsupportedFunction
  | .unknownField _ => .entryNotFound
  | .emptyResult => .unexpected
  | _ => .invalidArgument

/- The kind of a packet error. -/
def kindOfPacket : WireError → Kind
  | .indexOutOfRange _ _ => .unexpected
  | _ => .invalidArgument

/- The kind of a failure. -/
def kind : Failure → Kind
  | stored _ => .invalidArgument
  | expr cause => kindOfExpr cause
  | packet cause => kindOfPacket cause
  | defaultNotText _ => .invalidArgument
  | columnOperand _ => .invalidArgument
  | columnArgument _ => .invalidArgument
  | placeholderArgument _ => .invalidArgument
  | unknownCall _ => .unsupportedFunction
  | noCallArgument _ _ => .unexpected
  | noStatementEntry => .unexpected
  | noParameter _ _ => .unexpected
  | nothingBoundYet => .invalidArgument
  | noVariableName _ _ => .unexpected
  | nothingBound _ => .invalidArgument
  | noVariable _ => .entryNotFound
  | otherLongData _ _ => .entryNotFound
  | targetNotGenerated _ _ _ => .unexpected
  | targetWithoutGenerator _ _ _ => .unexpected
  | generatedWithoutSource _ _ => .unexpected
  | noKey _ _ => .unexpected
  | noGeneratedKey _ _ => .entryNotFound
  | noGenerator _ => .unexpected
  | unsupportedGenerator _ => .unsupportedFunction
  | noColumn _ _ => .unexpected
  | tooManyColumns => .allocationFailed
  | noRelations => .invalidArgument

------------------------------------------------------------
-- Wording
------------------------------------------------------------

/- The wording of a cause, without its kind. -/
def text : Failure → String
  | stored cause => cause.message
  | expr cause => cause.message
  | packet cause => cause.message
  | defaultNotText fault =>
      s!"default expression is not utf-8: {fault.message}"
  | columnOperand column => s!"column {column} is not a value"
  | columnArgument column =>
      "unexpected token in function argument: " ++
        s!"Column({Quoted.text column})"
  | placeholderArgument index =>
      "unexpected token in function argument: " ++
        s!"Placeholder({index})"
  | unknownCall name => name
  | noCallArgument index count =>
      s!"placeholder {index} out of range " ++
        s!"for {count} call params"
  | noStatementEntry =>
      "execute without prepared statement entry"
  | noParameter index count =>
      s!"placeholder {index} out of range for {count} params"
  | nothingBoundYet => "prepare statement has no bound values"
  | noVariableName index count =>
      s!"placeholder {index} out of range " ++
        s!"for {count} execute params"
  | nothingBound index =>
      s!"placeholder {index} in a statement " ++
        "without bound values"
  | noVariable name => s!"user variable @{name}"
  | otherLongData carried wanted =>
      s!"long data carries param {carried}, " ++
        s!"not param {wanted}"
  | targetNotGenerated index key target =>
      s!"part key {index} ({key}) points to generated key " ++
        s!"{target} which is not a generated key"
  | targetWithoutGenerator index key target =>
      s!"part key {index} ({key}) generates key {target} " ++
        "without a generating function"
  | generatedWithoutSource index key =>
      s!"generated part key {index} ({key}) has no source key"
  | noKey index count =>
      s!"relation column index {index} out of range " ++
        s!"for {count} part keys"
  | noGeneratedKey target source =>
      s!"generated key {target} for source key {source} " ++
        "not found"
  | noGenerator key =>
      s!"part key {key} has no generating function"
  | unsupportedGenerator f => s!"generating function {f.name}"
  | noColumn index count =>
      s!"part column index {index} out of range " ++
        s!"for {count} columns"
  | tooManyColumns =>
      "memory allocation failed because the computed " ++
        "capacity exceeded the collection's maximum"
  | noRelations => "relation info is missing"

/- The whole message of a failure. -/
def message
    (f : Failure) : String :=
  f.kind.heading ++ ": " ++ f.text

end Failure

end PartitionPruning
