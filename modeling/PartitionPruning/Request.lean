import PartitionPruning.Wire.FieldType

/-
  What a client asks for, apart from the predicates.

  Key definitions include:
    * `Command`
    * `StatementKind`
    * `CallArgument`
    * `Request`
    * `StatementEntry`
-/

namespace PartitionPruning

/- The command of a request packet. -/
inductive Command where
  | query
  | prepare
  | execute
  | sendLongData
  | prepareExecute
deriving DecidableEq, Repr, Inhabited

/- The number of a command on the wire. -/
def Command.code : Command → UInt8
  | query => 0x03
  | prepare => 0x16
  | execute => 0x17
  | sendLongData => 0x18
  | prepareExecute => 0xA1

/-
  What the text of a statement is: a plain statement, a
  `CALL`, or the `EXECUTE` of a prepared statement or of a
  prepared `CALL`.
-/
inductive StatementKind where
  | plain
  | call
  | execute
  | executeCall
deriving DecidableEq, Repr, Inhabited

namespace StatementKind

/- The statement calls a procedure. -/
def isCall : StatementKind → Bool
  | call | executeCall => true
  | plain | execute => false

/- The statement takes its values from user variables. -/
def isExecute : StatementKind → Bool
  | execute | executeCall => true
  | plain | call => false

end StatementKind

/-
  An argument of a `CALL`.  A placeholder stands for the
  parameter at its index.
-/
inductive CallArgument where
  | int (v : Int64)
  | text (s : String)
  | placeholder (index : UInt64)
deriving DecidableEq, Repr, Inhabited

/-
  A client's request: the arguments of a `CALL`, the user
  variables that an `EXECUTE` names, and the packet's
  content.
-/
structure Request where
  command : Command
  kind : StatementKind
  callArguments : List CallArgument
  variableNames : List String
  payload : List UInt8
deriving DecidableEq, Repr, Inhabited

/-
  What is known of a prepared statement: how many parameters
  it has, and the types last bound to them.
-/
structure StatementEntry where
  paramCount : UInt64
  paramTypes : List ParamType
deriving DecidableEq, Repr, Inhabited

end PartitionPruning
