import PartitionPruning.Capture.Outline
import PartitionPruning.Statement.Basic

/-
  Statements shown in full for reading by people.

  Functions that end in `Name` give the word that a listing
  shows for a choice without parts.

  Key definitions include:
    * `Listing.value`
    * `Listing.operand`
    * `Listing.statement`
-/

namespace PartitionPruning

namespace Listing

open Outline

------------------------------------------------------------
-- Values
------------------------------------------------------------

/- A natural number in decimal. -/
def natural
    (n : Nat) : Outline :=
  leaf (Nat.repr n)

/- An integer in decimal. -/
def integer
    (v : Int64) : Outline :=
  leaf (String.ofList (Numeral.ofInt v.toInt))

/- A word as a natural number. -/
def word
    (n : UInt64) : Outline :=
  natural n.toNat

/- A truth value as a word. -/
def bool
    (b : Bool) : Outline :=
  leaf (if b then "true" else "false")

/- A string between quotes. -/
def string
    (s : String) : Outline :=
  leaf (Quoted.text s)

/- Bytes as a list of numbers. -/
def bytes
    (bs : List UInt8) : Outline :=
  list (bs.map fun b => natural b.toNat)

/- A collation by number. -/
def collation
    (c : Collation) : Outline :=
  wrap "Collation" (natural c.id.toNat)

/- A value with its kind. -/
def value : Value → Outline
  | .null => leaf "Null"
  | .int v => wrap "Int" (integer v)
  | .text bs c =>
      record "Str"
        [("bytes", bytes bs), ("collation", collation c)]
  | .least => leaf "Min"
  | .greatest => leaf "Max"

/- Values under quoted names. -/
def nameTable
    (t : NameTable) : Outline :=
  table (t.entries.map fun (name, v) =>
    (Quoted.text name, value v))

------------------------------------------------------------
-- Predicates
------------------------------------------------------------

mutual

/- An operand with its kind. -/
def operand : Operand → Outline
  | .int v => wrap "Int" (integer v)
  | .text bs => wrap "Str" (bytes bs)
  | .placeholder index => wrap "Placeholder" (word index)
  | .call name args =>
      record "Func"
        [("name", string name), ("args", list (operands args))]
  | .column name => wrap "Column" (string name)

/- Operands one after another. -/
def operands : List Operand → List Outline
  | [] => []
  | o :: os => operand o :: operands os

end

/- The word for a comparator. -/
def comparatorName : Comparator → String
  | .eq => "Eq"
  | .ge => "Ge"
  | .gt => "Gt"
  | .le => "Le"
  | .lt => "Lt"
  | .other => "Other"

/- The word for the levels of a key. -/
def keyLevelName : KeyLevel → String
  | .zero => "Zero"
  | .one => "One"
  | .two => "Two"
  | .both => "Both"

/- A predicate with all its parts. -/
def predicate
    (p : Predicate) : Outline :=
  record "RelationExpr"
    [("column_idx", word p.key),
      ("first_part_column_idx", word p.first),
      ("second_part_column_idx", word p.second),
      ("level", leaf (keyLevelName p.level)),
      ("op", leaf (comparatorName p.op)),
      ("value", operand p.operand),
      ("has_row_id", bool p.fromRowId)]

------------------------------------------------------------
-- Schemas
------------------------------------------------------------

/- The word for a function. -/
def funcName : Func → String
  | .hash => "Hash"
  | .substr => "Substr"
  | .concat => "Concat"
  | .toInt => "ToInt"
  | .div => "Div"
  | .add => "Add"
  | .sub => "Sub"
  | .mul => "Mul"
  | .sum => "Sum"
  | .count => "Count"
  | .max => "Max"
  | .min => "Min"
  | .avg => "Avg"
  | .group => "Group"
  | .order => "Order"
  | .testLoad => "TestLoad"
  | .split => "Split"
  | .toDate => "ToDate"
  | .toTimestamp => "ToTimestamp"
  | .nvl => "Nvl"
  | .toChar => "ToChar"
  | .sysDate => "SysDate"
  | .mod => "Mod"

/- A literal argument with its kind. -/
def generatorParam : GeneratorParam → Outline
  | .column name => wrap "Column" (string name)
  | .int v => wrap "Int" (integer v)
  | .text s => wrap "Str" (string s)

/- A generating function and its arguments. -/
def generator
    (g : Generator) : Outline :=
  record "KeyGenerator"
    [("func", leaf (funcName g.func)),
      ("params", list (g.params.map generatorParam))]

/- A partition key with all its parts. -/
def partKey
    (k : PartKey) : Outline :=
  record "PartKey"
    [("name", string k.name),
      ("level", leaf (keyLevelName k.level)),
      ("idx_in_part_columns", word k.position),
      ("is_generated", bool k.isGenerated),
      ("generated_col_idx", option (k.target?.map word)),
      ("real_source_idx", option (k.realSource?.map word)),
      ("generator", option (k.generator?.map generator)),
      ("default_value", bytes k.storedDefault),
      ("is_exist_in_sql", bool k.inStatement)]

/- The word for the level of a table. -/
def tableLevelName : TableLevel → String
  | .zero => "Zero"
  | .one => "One"
  | .two => "Two"

/- The word for a dialect. -/
def dialectName : Dialect → String
  | .mysql => "Mysql"
  | .oracle => "Oracle"

/- A schema with all its parts. -/
def schema
    (s : Schema) : Outline :=
  record "PartitionInfo"
    [("level", leaf (tableLevelName s.level)),
      ("part_columns", list (s.columns.map string)),
      ("sub_part_columns", list (s.subColumns.map string)),
      ("key_info",
        record "PartKeyInfo"
          [("keys", list (s.keys.map partKey))]),
      ("mode", leaf (dialectName s.dialect))]

------------------------------------------------------------
-- Requests
------------------------------------------------------------

/- A session and its variables. -/
def session
    (s : Session) : Outline :=
  record "SessionInfo"
    [("collation_connection", collation s.collation),
      ("user_variables", nameTable s.userVariables)]

/- The word for a command. -/
def commandName : Command → String
  | .query => "Query"
  | .prepare => "StmtPrepare"
  | .execute => "StmtExecute"
  | .sendLongData => "StmtSendLongData"
  | .prepareExecute => "StmtPrepareExecute"

/- The word for a statement kind. -/
def kindName : StatementKind → String
  | .plain => "Plain"
  | .call => "Call"
  | .execute => "TextPsExecute"
  | .executeCall => "TextPsCall"

/- An argument of a `CALL` with its kind. -/
def callArgument : CallArgument → Outline
  | .int v => wrap "Int" (integer v)
  | .text s => wrap "Str" (string s)
  | .placeholder index => wrap "Placeholder" (word index)

/- A request with all its parts. -/
def request
    (r : Request) : Outline :=
  record "ClientRequest"
    [("command", leaf (commandName r.command)),
      ("stmt_kind", leaf (kindName r.kind)),
      ("call_info",
        record "CallInfo"
          [("params", list (r.callArguments.map callArgument))]),
      ("text_ps_info",
        record "TextPsInfo"
          [("params", list (r.variableNames.map string))]),
      ("payload", leaf (Quoted.byteString r.payload))]

/- A parameter type with both its parts. -/
def paramType
    (t : ParamType) : Outline :=
  record "ParamType"
    [("field_type", leaf t.fieldType.name),
      ("unsigned", bool t.unsigned)]

/- A prepared statement with both its parts. -/
def statementEntry
    (e : StatementEntry) : Outline :=
  record "PsEntry"
    [("param_count", word e.paramCount),
      ("param_types", list (e.paramTypes.map paramType))]

------------------------------------------------------------
-- Statements
------------------------------------------------------------

/- A configuration with both its parts. -/
def config
    (c : Config) : Outline :=
  record "ResolverConfig"
    [("default_collation", collation c.collation),
      ("max_func_depth", word c.maxDepth)]

/- A statement with all its parts. -/
def statement
    (s : Statement) : Outline :=
  record "ResolveRequest"
    [("config", config s.config),
      ("relations",
        option (s.predicates?.map fun ps =>
          list (ps.map fun p? =>
            option (p?.map predicate)))),
      ("part_info", schema s.schema),
      ("session", session s.session),
      ("request", request s.request),
      ("ps_entry", option (s.prepared?.map statementEntry)),
      ("sql_fields",
        record "SqlFields"
          [("fields", nameTable s.fields.table)]),
      ("is_insert", bool s.isInsert)]

end Listing

end PartitionPruning
