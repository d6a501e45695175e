import PartitionPruning.Statement.Basic
import PartitionPruning.Wire.Packet

/-
  The values that placeholders stand for.

  In a `CALL` a placeholder stands for an argument of the
  call, which may be a placeholder itself.  Any other
  placeholder stands for a parameter, which is read where
  the command puts it: in the packet, or in the user
  variables that an `EXECUTE` names.

  Key definitions include:
    * `Binding.prepareExecuteParam`
    * `Binding.longDataParam`
    * `Binding.stripQuotes`
    * `Statement.param`
    * `Statement.bind`
-/

namespace PartitionPruning

namespace Binding

------------------------------------------------------------
-- Packets
------------------------------------------------------------

/- A result of reading a packet among other results. -/
def ofPacket
    {α : Type} :
    Except WireError α → Except Failure α
  | .ok a => .ok a
  | .error cause => .error (.packet cause)

/-
  A parameter of a packet that prepares and executes.  The
  statement's entry has types to stand in.
-/
def prepareExecuteParam
    (prepared? : Option StatementEntry)
    (payload : List UInt8)
    (index : Nat) : Except Failure Value :=
  let declared :=
    match prepared? with
    | some entry => entry.paramTypes
    | none => []
  ofPacket (Packet.prepareExecuteParam declared payload index)

/- The index lies beyond the parameters of the entry. -/
def beyond
    (prepared? : Option StatementEntry)
    (index : Nat) : Option Failure :=
  match prepared? with
  | none => none
  | some entry =>
      if entry.paramCount.toNat ≤ index then
        some (.packet
          (.indexOutOfRange index entry.paramCount.toNat))
      else none

/- A parameter of a packet that carries one of them. -/
def longDataParam
    (prepared? : Option StatementEntry)
    (payload : List UInt8)
    (index : Nat) : Except Failure Value :=
  match beyond prepared? index with
  | some failure => .error failure
  | none => do
      let (carried, bytes) ←
        ofPacket (Packet.longData payload)
      if carried = index then .ok (.text bytes default)
      else .error (.otherLongData carried index)

/- A parameter of an execute packet. -/
def executeParam
    (prepared? : Option StatementEntry)
    (payload : List UInt8)
    (index : Nat) : Except Failure Value :=
  match prepared? with
  | none => .error .noStatementEntry
  | some entry =>
      if entry.paramCount.toNat ≤ index then
        .error (.noParameter index entry.paramCount.toNat)
      else
        ofPacket
          (Packet.executeParam entry.paramCount.toNat
            entry.paramTypes payload index)

------------------------------------------------------------
-- User Variables
------------------------------------------------------------

/-
  Text without the quotes around it, if the same quote is
  around it on both sides.
-/
def stripQuotes :
    List UInt8 → List UInt8
  | [] => []
  | q :: rest =>
      if (q = 0x27 ∨ q = 0x22) ∧ rest.getLast? = some q then
        rest.dropLast
      else q :: rest

/- A string value without the quotes around it. -/
def unquoted : Value → Value
  | .text bytes c => .text (stripQuotes bytes) c
  | v => v

/- The variable named at an index. -/
def variableParam
    (session : Session)
    (names : List String)
    (index : Nat) : Except Failure Value :=
  match names[index]? with
  | none => .error (.noVariableName index names.length)
  | some name => (session.value name).map unquoted

end Binding

------------------------------------------------------------
-- Placeholders
------------------------------------------------------------

namespace Statement

open Binding

/- The parameter at an index. -/
def param
    (s : Statement)
    (index : Nat) : Except Failure Value :=
  match s.request.command with
  | .execute =>
      executeParam s.prepared? s.request.payload index
  | .prepare => .error .nothingBoundYet
  | .prepareExecute =>
      prepareExecuteParam s.prepared? s.request.payload index
  | .sendLongData =>
      longDataParam s.prepared? s.request.payload index
  | .query =>
      if s.request.kind.isExecute then
        variableParam s.session s.request.variableNames index
      else .error (.nothingBound index)

/- The value that the placeholder at an index stands for. -/
def bind
    (s : Statement)
    (index : Nat) : Except Failure Value :=
  if s.request.kind.isCall then
    match s.request.callArguments[index]? with
    | none =>
        .error (.noCallArgument index
          s.request.callArguments.length)
    | some (.int v) => .ok (.int v)
    | some (.text t) =>
        .ok (.text (Utf8.bytes t) s.config.collation)
    | some (.placeholder i) => s.param i.toNat
  else s.param index

end Statement

end PartitionPruning
