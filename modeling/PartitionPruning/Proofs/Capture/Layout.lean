import PartitionPruning.Capture.Layout
import PartitionPruning.Proofs.Capture.Codec

/-
  Layouts that are exact.

  All parts of a statement have exact codecs, except for the
  tables of user variables and fields: entries of the same
  name would be put into one.  Before they are looked up by
  name, the entries are read as they stand.  The contents of
  a capture are what is read then, and their codec is exact.

  Key definitions include:
    * `Capture.Contents`
    * `Layout.entries`
    * `Layout.contents`

  Main declarations:
    * `Layout.isExact_operand`
    * `Layout.isExact_contents`
    * `Layout.statement_eq`
-/

namespace PartitionPruning

namespace Layout

open Codec
open LittleEndian (span)

------------------------------------------------------------
-- Values
------------------------------------------------------------

theorem isExact_collation :
    collation.IsExact :=
  isExact_word16.via (fun _ => rfl) fun _ => rfl

theorem isExact_bytes :
    bytes.IsExact :=
  isExact_byte.list

/-
  The number of its alternative tells how a value goes on,
  so that one without content is as exact as a text.
-/
theorem isExact_value :
    value.IsExact where
  write_pos v := by
    cases v <;>
      simp only [value, List.length_append, length_tag] <;>
      omega
  read_write {v} hSize rest := by
    cases v with
    | null =>
        exact Reader.choice_give (n := 0) rfl (by decide) rest
    | int i =>
        exact
          isExact_int64.choice_tag (n := 1) rfl (by decide)
            hSize rest
    | text bs c =>
        exact
          (isExact_bytes.pair isExact_collation).choice_tag
            (n := 2) (f := fun p => Value.text p.1 p.2)
            (b := (bs, c)) rfl (by decide) hSize rest
    | least =>
        exact Reader.choice_give (n := 3) rfl (by decide) rest
    | greatest =>
        exact Reader.choice_give (n := 4) rfl (by decide) rest
  eq_write {bs v rest} h := by
    apply Reader.eq_write_of_choice _ h
    intro n r hGet
    rcases n with _ | _ | _ | _ | _ | _
    · cases hGet
      exact Reader.follows_give rfl
    · cases hGet
      exact isExact_int64.follows fun _ => rfl
    · cases hGet
      exact
        (isExact_bytes.pair isExact_collation).follows
          fun _ => rfl
    · cases hGet
      exact Reader.follows_give rfl
    · cases hGet
      exact Reader.follows_give rfl
    · cases hGet

/- Values with their names, as they stand in a capture. -/
def entries : Codec (List (String × Value)) :=
  list (string.pair value)

/-
  Entries are exact in the order they stand in, also where
  two have one name.
-/
theorem isExact_entries :
    entries.IsExact :=
  (isExact_string.pair isExact_value).list

------------------------------------------------------------
-- Predicates
------------------------------------------------------------

/-
  Operands are written one after another, with nothing
  between them.
-/
theorem writeOperands_eq_flatMap
    (os : List Operand) :
    writeOperands os = os.flatMap writeOperand := by
  induction os with
  | nil => rfl
  | cons o os ih =>
      rw [writeOperands, ih, List.flatMap_cons]

/- The name and the arguments of a call. -/
theorem writeOperand_call
    (name : String)
    (args : List Operand) :
    writeOperand (.call name args) =
      tag 3 ++ (string.write name ++
        (LittleEndian.encode 8 args.length ++
          args.flatMap writeOperand)) := by
  rw [writeOperand, writeOperands_eq_flatMap,
    List.append_assoc, List.append_assoc]

/-
  No operand is written as nothing, so that the bytes of a
  call bound the number of its arguments.
-/
theorem length_writeOperand_pos
    (o : Operand) :
    0 < (writeOperand o).length := by
  cases o <;>
    simp only [writeOperand, List.length_append, length_tag] <;>
    omega

/-
  An operand of fewer bytes than nested calls are allowed is
  read back.  The induction is on the nesting: an argument
  takes fewer bytes than its call.
-/
theorem readOperand_writeOperand
    {nesting : Nat}
    {o : Operand}
    (hNesting : (writeOperand o).length < nesting)
    (hSize : (writeOperand o).length < UInt64.size)
    (rest : List UInt8) :
    readOperand nesting (writeOperand o ++ rest) =
      .ok (o, rest) := by
  induction nesting generalizing o rest with
  | zero => cases hNesting
  | succ nesting ih =>
      cases o with
      | int v =>
          exact
            isExact_int64.choice_tag (n := 0) rfl (by decide)
              hSize rest
      | text bs =>
          exact
            isExact_bytes.choice_tag (n := 1) rfl (by decide)
              hSize rest
      | placeholder index =>
          exact
            isExact_word64.choice_tag (n := 2) rfl (by decide)
              hSize rest
      | column name =>
          exact
            isExact_string.choice_tag (n := 4) rfl (by decide)
              hSize rest
      | call name args =>
          rw [writeOperand_call] at hNesting hSize ⊢
          simp only [List.length_append, length_tag,
            LittleEndian.length_encode] at hNesting hSize
          have hName :=
            isExact_string.read_write (a := name) (by omega)
              (LittleEndian.encode 8 args.length ++
                (args.flatMap writeOperand ++ rest))
          have hCount :
              args.length ≤
                (args.flatMap writeOperand).length :=
            length_le_length_flatMap fun o _ =>
              length_writeOperand_pos o
          have hArgs :
              (readOperand nesting).many args.length
                  (args.flatMap writeOperand ++ rest) =
                .ok (args, rest) := by
            apply Reader.many_flatMap
            intro o hMember others
            have hItem :
                (writeOperand o).length ≤
                  (args.flatMap writeOperand).length :=
              length_write_le_length_flatMap hMember
            exact ih (by omega) (by omega) others
          have hNumber :=
            number_length (n := args.length) (by omega)
              (args.flatMap writeOperand ++ rest)
          rw [List.append_assoc, readOperand,
            Reader.choice_tag (n := 3) rfl (by decide)]
          simp only [List.append_assoc, hName, Steps.ok_bind,
            hNumber, hArgs]

/- An operand that is read has been written. -/
theorem eq_writeOperand
    {nesting : Nat}
    {bs rest : List UInt8}
    {o : Operand}
    (h : readOperand nesting bs = .ok (o, rest)) :
    bs = writeOperand o ++ rest := by
  induction nesting generalizing bs o rest with
  | zero => cases h
  | succ nesting ih =>
      apply Reader.eq_write_of_choice _ h
      intro n r hGet
      rcases n with _ | _ | _ | _ | _ | _
      · cases hGet
        exact isExact_int64.follows fun _ => rfl
      · cases hGet
        exact isExact_bytes.follows fun _ => rfl
      · cases hGet
        exact isExact_word64.follows fun _ => rfl
      · cases hGet
        intro bs o rest hRead
        rcases Steps.bind_eq_ok_iff.mp hRead with
          ⟨⟨name, afterName⟩, hName, hRead⟩
        rcases Steps.bind_eq_ok_iff.mp hRead with
          ⟨⟨count, afterCount⟩, hCount, hRead⟩
        rcases Steps.bind_eq_ok_iff.mp hRead with
          ⟨⟨args, afterArgs⟩, hArgs, hDone⟩
        cases hDone
        rcases Reader.eq_flatMap_of_many ih hArgs with
          ⟨rfl, rfl⟩
        rw [isExact_string.eq_write hName,
          (Reader.number_eq_ok_iff.mp hCount).1,
          writeOperand_call]
        simp only [List.append_assoc]
      · cases hGet
        exact isExact_string.follows fun _ => rfl
      · cases hGet

/-
  A reader that may nest as deep as there are bytes stops
  at no operand that those bytes hold.
-/
theorem isExact_operand :
    operand.IsExact where
  write_pos := length_writeOperand_pos
  read_write {o} hSize rest := by
    apply readOperand_writeOperand _ hSize
    simp only [operand, List.length_append]
    omega
  eq_write h := eq_writeOperand h

/- Every comparator is in the list, and once. -/
theorem isExact_comparator :
    comparator.IsExact :=
  isExact_enumeration (fun a => by cases a <;> decide)
    (by decide) (by decide)

theorem isExact_keyLevel :
    keyLevel.IsExact :=
  isExact_enumeration (fun a => by cases a <;> decide)
    (by decide) (by decide)

/-
  A predicate is exact because its seven parts are, its
  operand included.
-/
theorem isExact_predicate :
    predicate.IsExact :=
  (isExact_word64.pair (isExact_word64.pair
    (isExact_word64.pair (isExact_keyLevel.pair
      (isExact_comparator.pair (isExact_operand.pair
        isExact_bool)))))).via (fun _ => rfl) fun _ => rfl

------------------------------------------------------------
-- Schemas
------------------------------------------------------------

/-
  The functions are listed without a gap, so that each
  number below their count is one function.
-/
theorem isExact_func :
    func.IsExact :=
  isExact_enumeration Func.mem_all (by decide) (by decide)

/-
  The three kinds of arguments are told apart by their
  numbers, though two of them are strings.
-/
theorem isExact_generatorParam :
    generatorParam.IsExact where
  write_pos p := by
    cases p <;> exact length_tag_append_pos _ _
  read_write {p} hSize rest := by
    cases p with
    | column name =>
        exact
          isExact_string.choice_tag (n := 0) rfl (by decide)
            hSize rest
    | int v =>
        exact
          isExact_int64.choice_tag (n := 1) rfl (by decide)
            hSize rest
    | text s =>
        exact
          isExact_string.choice_tag (n := 2) rfl (by decide)
            hSize rest
  eq_write {bs p rest} h := by
    apply Reader.eq_write_of_choice _ h
    intro n r hGet
    rcases n with _ | _ | _ | _
    · cases hGet
      exact isExact_string.follows fun _ => rfl
    · cases hGet
      exact isExact_int64.follows fun _ => rfl
    · cases hGet
      exact isExact_string.follows fun _ => rfl
    · cases hGet

/-
  A function takes any number of arguments, which its own
  number says nothing about.
-/
theorem isExact_generator :
    generator.IsExact :=
  (isExact_func.pair isExact_generatorParam.list).via
    (fun _ => rfl) fun _ => rfl

/-
  The nine parts of a key are exact, and the three that
  may be missing are so as optional parts.
-/
theorem isExact_partKey :
    partKey.IsExact :=
  (isExact_string.pair (isExact_keyLevel.pair
    (isExact_word64.pair (isExact_bool.pair
      (isExact_word64.option.pair (isExact_word64.option.pair
        (isExact_generator.option.pair (isExact_bytes.pair
          isExact_bool)))))))).via (fun _ => rfl) fun _ => rfl

theorem isExact_tableLevel :
    tableLevel.IsExact :=
  isExact_enumeration (fun a => by cases a <;> decide)
    (by decide) (by decide)

theorem isExact_dialect :
    dialect.IsExact :=
  isExact_enumeration (fun a => by cases a <;> decide)
    (by decide) (by decide)

/-
  A schema is exact: its lists of columns and keys carry
  their own lengths.
-/
theorem isExact_schema :
    schema.IsExact :=
  (isExact_tableLevel.pair (isExact_string.list.pair
    (isExact_string.list.pair (isExact_partKey.list.pair
      isExact_dialect)))).via (fun _ => rfl) fun _ => rfl

------------------------------------------------------------
-- Requests
------------------------------------------------------------

theorem isExact_command :
    command.IsExact :=
  isExact_enumeration (fun a => by cases a <;> decide)
    (by decide) (by decide)

theorem isExact_statementKind :
    statementKind.IsExact :=
  isExact_enumeration (fun a => by cases a <;> decide)
    (by decide) (by decide)

/-
  An argument of a call has three kinds, each with content
  of its own.
-/
theorem isExact_callArgument :
    callArgument.IsExact where
  write_pos a := by
    cases a <;> exact length_tag_append_pos _ _
  read_write {a} hSize rest := by
    cases a with
    | int v =>
        exact
          isExact_int64.choice_tag (n := 0) rfl (by decide)
            hSize rest
    | text s =>
        exact
          isExact_string.choice_tag (n := 1) rfl (by decide)
            hSize rest
    | placeholder index =>
        exact
          isExact_word64.choice_tag (n := 2) rfl (by decide)
            hSize rest
  eq_write {bs a rest} h := by
    apply Reader.eq_write_of_choice _ h
    intro n r hGet
    rcases n with _ | _ | _ | _
    · cases hGet
      exact isExact_int64.follows fun _ => rfl
    · cases hGet
      exact isExact_string.follows fun _ => rfl
    · cases hGet
      exact isExact_word64.follows fun _ => rfl
    · cases hGet

/-
  A request is exact whatever its payload, which is read
  as bytes and not looked into.
-/
theorem isExact_request :
    request.IsExact :=
  (isExact_command.pair (isExact_statementKind.pair
    (isExact_callArgument.list.pair (isExact_string.list.pair
      isExact_byteString)))).via (fun _ => rfl) fun _ => rfl

/-
  A parameter type is exact: field types are captured by
  their place in the list and not by the number that
  packets give them.
-/
theorem isExact_paramType :
    paramType.IsExact :=
  ((isExact_enumeration FieldType.mem_all (by decide)
    (by decide)).pair isExact_bool).via (fun _ => rfl)
      fun _ => rfl

/-
  The count and the types of a prepared statement are
  captured apart, so that they need not agree.
-/
theorem isExact_statementEntry :
    statementEntry.IsExact :=
  (isExact_word64.pair isExact_paramType.list).via
    (fun _ => rfl) fun _ => rfl

/- The depth is read back as any number of 64 bits. -/
theorem isExact_config :
    config.IsExact :=
  (isExact_collation.pair isExact_word64).via
    (fun _ => rfl) fun _ => rfl

end Layout

------------------------------------------------------------
-- Contents
------------------------------------------------------------

namespace Capture

/-
  What a capture holds: a statement with the entries of its
  two tables as they stand.
-/
structure Contents where
  config : Config
  predicates? : Option (List (Option Predicate))
  schema : Schema
  collation : Collation
  userVariables : List (String × Value)
  request : Request
  prepared? : Option StatementEntry
  fields : List (String × Value)
  isInsert : Bool

namespace Contents

/- The statement, with the entries put into tables. -/
def statement
    (c : Contents) : Statement where
  config := c.config
  predicates? := c.predicates?
  schema := c.schema
  session := ⟨c.collation, NameTable.ofList c.userVariables⟩
  request := c.request
  prepared? := c.prepared?
  fields := ⟨NameTable.ofList c.fields⟩
  isInsert := c.isInsert

/- The contents that a statement is written as. -/
def ofStatement
    (s : Statement) : Contents where
  config := s.config
  predicates? := s.predicates?
  schema := s.schema
  collation := s.session.collation
  userVariables := s.session.userVariables.entries
  request := s.request
  prepared? := s.prepared?
  fields := s.fields.table.entries
  isInsert := s.isInsert

end Contents

end Capture

namespace Layout

open Codec
open Capture (Contents)

/- The contents of a capture, as the sequence of its parts. -/
def contents : Codec Contents :=
  (config.pair ((option (list (option predicate))).pair
    (schema.pair ((collation.pair entries).pair (request.pair
      ((option statementEntry).pair
        (entries.pair bool))))))).via
    (fun c =>
      (c.config, c.predicates?, c.schema,
        (c.collation, c.userVariables), c.request, c.prepared?,
        c.fields, c.isInsert))
    fun (config, predicates?, schema, (collation, userVariables),
        request, prepared?, fields, isInsert) =>
      ⟨config, predicates?, schema, collation, userVariables,
        request, prepared?, fields, isInsert⟩

/-
  The contents of a capture are read back and nothing else
  is read as them, since every part is exact.
-/
theorem isExact_contents :
    contents.IsExact :=
  (isExact_config.pair (isExact_predicate.option.list.option.pair
    (isExact_schema.pair ((isExact_collation.pair
      isExact_entries).pair (isExact_request.pair
        (isExact_statementEntry.option.pair
          (isExact_entries.pair isExact_bool))))))).via
    (fun _ => rfl) fun _ => rfl

/- A statement is written and read by way of its contents. -/
theorem statement_eq :
    statement =
      contents.via Contents.ofStatement Contents.statement := by
  unfold statement contents session fields nameTable
  simp only [pair_via, via_pair, via_via]
  rfl

end Layout

end PartitionPruning
