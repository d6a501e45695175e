import PartitionPruning.Capture.Codec
import PartitionPruning.Statement.Basic

/-
  The capture of a statement: everything that its resolution
  reads, as bytes.

  Each structure is the sequence of its parts, and each
  choice the number of its alternative and then the parts of
  that alternative.

  Key definitions include:
    * `Layout.value`
    * `Layout.operand`
    * `Layout.predicate`
    * `Layout.schema`
    * `Layout.session`
    * `Layout.request`
    * `Layout.statement`
    * `Capture.encode`
    * `Capture.decode`
-/

namespace PartitionPruning

namespace Layout

open Codec

------------------------------------------------------------
-- Values
------------------------------------------------------------

/- A collation, as its number. -/
def collation : Codec Collation :=
  word16.via Collation.id Collation.mk

/- Bytes as a list of single bytes. -/
def bytes : Codec (List UInt8) :=
  list byte

/- A value: its alternative, then its content. -/
def value : Codec Value where
  write
    | .null => tag 0
    | .int v => tag 1 ++ int64.write v
    | .text bs c => tag 2 ++ (bytes.pair collation).write (bs, c)
    | .least => tag 3
    | .greatest => tag 4
  read :=
    Reader.choice
      [Reader.give .null,
        int64.read.map .int,
        (bytes.pair collation).read.map fun p =>
          .text p.1 p.2,
        Reader.give .least,
        Reader.give .greatest]

/- Values by name.  A later entry of a name wins. -/
def nameTable : Codec NameTable :=
  (list (string.pair value)).via NameTable.entries
    NameTable.ofList

------------------------------------------------------------
-- Predicates
------------------------------------------------------------

mutual

/- The bytes of an operand. -/
def writeOperand : Operand → List UInt8
  | .int v => tag 0 ++ int64.write v
  | .text bs => tag 1 ++ bytes.write bs
  | .placeholder index => tag 2 ++ word64.write index
  | .call name args =>
      tag 3 ++ string.write name ++
        LittleEndian.encode 8 args.length ++ writeOperands args
  | .column name => tag 4 ++ string.write name

/- The bytes of operands, one after another. -/
def writeOperands : List Operand → List UInt8
  | [] => []
  | o :: os => writeOperand o ++ writeOperands os

end

/- Read an operand of fewer than `nesting` nested calls. -/
def readOperand : Nat → Reader Operand
  | 0 => fun _ => .error .endOfInput
  | nesting + 1 =>
      Reader.choice
        [int64.read.map .int,
          bytes.read.map .text,
          word64.read.map .placeholder,
          fun bs => do
            let (name, rest) ← string.read bs
            let (n, rest) ← Reader.number 8 rest
            let (args, rest) ←
              (readOperand nesting).many n rest
            .ok (.call name args, rest),
          string.read.map .column]

/-
  Operands.  A call takes more than one byte, so bytes hold
  fewer nested calls than there are of them.
-/
def operand : Codec Operand where
  write := writeOperand
  read bs := readOperand (bs.length + 1) bs

/- A comparator, by its place in the list. -/
def comparator : Codec Comparator :=
  enumeration [.eq, .ge, .gt, .le, .lt, .other]

/- The levels of a key, by their place in the list. -/
def keyLevel : Codec KeyLevel :=
  enumeration [.zero, .one, .two, .both]

/- A predicate, as the sequence of its parts. -/
def predicate : Codec Predicate :=
  (word64.pair (word64.pair (word64.pair (keyLevel.pair
    (comparator.pair (operand.pair bool)))))).via
    (fun p =>
      (p.key, p.first, p.second, p.level, p.op, p.operand,
        p.fromRowId))
    fun (key, first, second, level, op, operand, fromRowId) =>
      ⟨key, first, second, level, op, operand, fromRowId⟩

------------------------------------------------------------
-- Schemas
------------------------------------------------------------

/- A function, by its number. -/
def func : Codec Func :=
  enumeration Func.all

/- A literal argument of a generating function. -/
def generatorParam : Codec GeneratorParam where
  write
    | .column name => tag 0 ++ string.write name
    | .int v => tag 1 ++ int64.write v
    | .text s => tag 2 ++ string.write s
  read :=
    Reader.choice
      [string.read.map .column,
        int64.read.map .int,
        string.read.map .text]

/- A generating function and its arguments. -/
def generator : Codec Generator :=
  (func.pair (list generatorParam)).via
    (fun g => (g.func, g.params))
    fun (f, params) => ⟨f, params⟩

/- A partition key, as the sequence of its parts. -/
def partKey : Codec PartKey :=
  (string.pair (keyLevel.pair (word64.pair (bool.pair
    ((option word64).pair ((option word64).pair
      ((option generator).pair (bytes.pair bool)))))))).via
    (fun k =>
      (k.name, k.level, k.position, k.isGenerated, k.target?,
        k.realSource?, k.generator?, k.storedDefault,
        k.inStatement))
    fun (name, level, position, isGenerated, target?,
        realSource?, generator?, storedDefault, inStatement) =>
      ⟨name, level, position, isGenerated, target?,
        realSource?, generator?, storedDefault, inStatement⟩

/- The level of a table, by its place in the list. -/
def tableLevel : Codec TableLevel :=
  enumeration [.zero, .one, .two]

/- A dialect, by its place in the list. -/
def dialect : Codec Dialect :=
  enumeration [.mysql, .oracle]

/- A schema, as the sequence of its parts. -/
def schema : Codec Schema :=
  (tableLevel.pair ((list string).pair ((list string).pair
    ((list partKey).pair dialect)))).via
    (fun s =>
      (s.level, s.columns, s.subColumns, s.keys, s.dialect))
    fun (level, columns, subColumns, keys, dialect) =>
      ⟨level, columns, subColumns, keys, dialect⟩

------------------------------------------------------------
-- Requests
------------------------------------------------------------

/- A session: its collation, then its variables. -/
def session : Codec Session :=
  (collation.pair nameTable).via
    (fun s => (s.collation, s.userVariables))
    fun (collation, userVariables) => ⟨collation, userVariables⟩

/- A command, by its place in the list. -/
def command : Codec Command :=
  enumeration
    [.query, .prepare, .execute, .sendLongData,
      .prepareExecute]

/- A statement kind, by its place in the list. -/
def statementKind : Codec StatementKind :=
  enumeration [.plain, .call, .execute, .executeCall]

/- An argument of a `CALL`. -/
def callArgument : Codec CallArgument where
  write
    | .int v => tag 0 ++ int64.write v
    | .text s => tag 1 ++ string.write s
    | .placeholder index => tag 2 ++ word64.write index
  read :=
    Reader.choice
      [int64.read.map .int,
        string.read.map .text,
        word64.read.map .placeholder]

/- A request, as the sequence of its parts. -/
def request : Codec Request :=
  (command.pair (statementKind.pair
    ((list callArgument).pair ((list string).pair
      byteString)))).via
    (fun r =>
      (r.command, r.kind, r.callArguments, r.variableNames,
        r.payload))
    fun (command, kind, callArguments, variableNames,
        payload) =>
      ⟨command, kind, callArguments, variableNames, payload⟩

/- A parameter type: a field type and its sign. -/
def paramType : Codec ParamType :=
  ((enumeration FieldType.all).pair bool).via
    (fun t => (t.fieldType, t.unsigned))
    fun (fieldType, unsigned) => ⟨fieldType, unsigned⟩

/- What is known of a prepared statement. -/
def statementEntry : Codec StatementEntry :=
  (word64.pair (list paramType)).via
    (fun e => (e.paramCount, e.paramTypes))
    fun (paramCount, paramTypes) => ⟨paramCount, paramTypes⟩

------------------------------------------------------------
-- Statements
------------------------------------------------------------

/- A configuration: a collation, then a depth. -/
def config : Codec Config :=
  (collation.pair word64).via
    (fun c => (c.collation, c.maxDepth))
    fun (collation, maxDepth) => ⟨collation, maxDepth⟩

/- The fields of a statement, by name. -/
def fields : Codec Fields :=
  nameTable.via Fields.table Fields.mk

/- A statement, as the sequence of its parts. -/
def statement : Codec Statement :=
  (config.pair ((option (list (option predicate))).pair
    (schema.pair (session.pair (request.pair
      ((option statementEntry).pair
        (fields.pair bool))))))).via
    (fun s =>
      (s.config, s.predicates?, s.schema, s.session,
        s.request, s.prepared?, s.fields, s.isInsert))
    fun (config, predicates?, schema, session, request,
        prepared?, fields, isInsert) =>
      ⟨config, predicates?, schema, session, request,
        prepared?, fields, isInsert⟩

end Layout

------------------------------------------------------------
-- Captures
------------------------------------------------------------

namespace Capture

/- The capture of a statement. -/
def encode
    (s : Statement) : List UInt8 :=
  Layout.statement.write s

/-
  The statement that bytes are a capture of.  What follows a
  capture is not read.
-/
def decode
    (bs : List UInt8) : Except CaptureFault Statement := do
  let (s, _) ← Layout.statement.read bs
  .ok s

end Capture

end PartitionPruning
