import PartitionPruning.Proofs.Capture.Layout
import PartitionPruning.Proofs.NameTable
import PartitionPruning.Proofs.Statement.Lookups

/-
  Captures and the statements that they are captures of.

  A capture is read back as its statement, whatever follows
  it and in whatever order it lists variables and fields.
  Where it lists at most one of each, it is the only capture
  of its statement, and no part of it is one of any other.

  Key definitions include:
    * `Statement.withTables`
    * `Capture.AnnouncesFew`

  Main declarations:
    * `Capture.read_encode`
    * `Capture.eq_encode_of_read`
    * `Capture.decode_encode_withTables`
    * `Capture.encode_canonical`
-/

namespace PartitionPruning

/- The statement with other user variables and fields. -/
def Statement.withTables
    (s : Statement)
    (userVariables fields : NameTable) : Statement :=
  { s with
    session := ⟨s.session.collation, userVariables⟩
    fields := ⟨fields⟩ }

/- The order of entries does not show when they are looked up. -/
theorem Statement.sameByName_withTables
    {s : Statement}
    {userVariables fields : NameTable}
    (hVariables :
      userVariables.entries.Perm
        s.session.userVariables.entries)
    (hFields : fields.entries.Perm s.fields.table.entries) :
    (s.withTables userVariables fields).SameByName s where
  config := rfl
  predicates := rfl
  schema := rfl
  collation := rfl
  userVariables := NameTable.get?_perm hVariables
  request := rfl
  prepared := rfl
  fields := NameTable.get?_perm hFields
  isInsert := rfl

namespace Capture

variable {bs rest : List UInt8}
variable {s t : Statement}

------------------------------------------------------------
-- Contents And Statements
------------------------------------------------------------

/-
  Putting the entries of tables into tables changes
  nothing.
-/
@[simp]
theorem Contents.statement_ofStatement
    (s : Statement) :
    (ofStatement s).statement = s := by
  simp [Contents.statement, ofStatement]

/- Entries of different names are listed as they were read. -/
theorem Contents.ofStatement_statement
    {c : Contents}
    (hVariables : (c.userVariables.map Prod.fst).Nodup)
    (hFields : (c.fields.map Prod.fst).Nodup) :
    ofStatement c.statement = c := by
  simp [Contents.statement, ofStatement,
    NameTable.entries_ofList hVariables,
    NameTable.entries_ofList hFields]

/- Writing a statement writes its contents. -/
theorem encode_eq_write
    (s : Statement) :
    encode s =
      Layout.contents.write (Contents.ofStatement s) := by
  rw [encode, Layout.statement_eq]
  rfl

/- A statement is read by way of the contents. -/
theorem read_eq_ok_iff :
    Layout.statement.read bs = .ok (s, rest) ↔
      ∃ c, Layout.contents.read bs = .ok (c, rest) ∧
        c.statement = s := by
  rw [Layout.statement_eq]
  exact Reader.map_eq_ok_iff

/- Decoding forgets what follows a capture. -/
theorem decode_eq_ok_iff :
    decode bs = .ok s ↔
      ∃ rest, Layout.statement.read bs = .ok (s, rest) := by
  unfold decode
  rw [Steps.bind_eq_ok_iff]
  constructor
  · rintro ⟨⟨t, rest⟩, hRead, hDone⟩
    cases hDone
    exact ⟨rest, hRead⟩
  · rintro ⟨rest, hRead⟩
    exact ⟨(s, rest), hRead, rfl⟩

------------------------------------------------------------
-- Reading What Was Written
------------------------------------------------------------

/- A capture is read back, and what follows it is left. -/
theorem read_encode
    (hSize : (encode s).length < UInt64.size)
    (rest : List UInt8) :
    Layout.statement.read (encode s ++ rest) =
      .ok (s, rest) := by
  rw [encode_eq_write] at hSize ⊢
  exact
    read_eq_ok_iff.mpr
      ⟨Contents.ofStatement s,
        Layout.isExact_contents.read_write hSize rest,
        Contents.statement_ofStatement s⟩

/-
  Whatever order a capture lists variables and fields in and
  whatever follows it, a statement is read that agrees with
  the captured one on every name and resolves alike.
-/
theorem decode_encode_withTables
    {userVariables fields : NameTable}
    (hVariables :
      userVariables.entries.Perm
        s.session.userVariables.entries)
    (hFields : fields.entries.Perm s.fields.table.entries)
    (hSize :
      (encode (s.withTables userVariables fields)).length <
        UInt64.size)
    (trailing : List UInt8) :
    ∃ t,
      decode
          (encode (s.withTables userVariables fields) ++
            trailing) =
        .ok t ∧
      t.SameByName s ∧
      t.resolve .builtin = s.resolve .builtin := by
  have hSame :=
    Statement.sameByName_withTables hVariables hFields
  refine ⟨s.withTables userVariables fields, ?_, hSame, ?_⟩
  · exact decode_eq_ok_iff.mpr ⟨trailing, read_encode hSize _⟩
  · exact hSame.resolve_eq Evaluator.looksUp_builtin

/-
  The `EXECUTE` of an `INSERT` with variables and fields of
  several names, a predicate on a call within a call and one
  that could not be built.
-/
def codeInsert : Statement where
  config := default
  predicates? :=
    some
      [some
          ⟨0, 0, 0, .both, .eq,
            .call "SUBSTR"
              [.column "name", .int 1,
                .call "CONCAT" [.placeholder 0, .text [0x31]]],
            false⟩,
        none]
  schema :=
    ⟨.two, ["code"], ["tenant"],
      [⟨"name", .zero, 0, false, some 1, some 0,
          some (Generator.substring "name" (some 1) (some 2)),
          [2, 45, 0, 4, 0, 0, 0, 0x27, 0x61, 0x62, 0x27], false⟩,
        ⟨"code", .one, 0, true, none, none, none, [], false⟩],
      .oracle⟩
  session :=
    ⟨⟨46⟩,
      ⟨[("tenant", .int 7), ("limit", .greatest),
          ("region", .text [0x65, 0x75] ⟨46⟩)],
        by decide⟩⟩
  request :=
    ⟨.execute, .execute, [.placeholder 0, .text "eu"],
      ["@tenant"], [0x17, 0, 0xFF]⟩
  prepared? := some ⟨1, [⟨.longLong, true⟩]⟩
  fields :=
    ⟨⟨[("NAME", .text [0x61] ⟨45⟩), ("CODE", .null)],
      by decide⟩⟩
  isInsert := true

/- The variables of `codeInsert` in another order. -/
def codeVariables : NameTable :=
  ⟨[("region", .text [0x65, 0x75] ⟨46⟩), ("tenant", .int 7),
      ("limit", .greatest)],
    by decide⟩

/- The fields of `codeInsert` in another order. -/
def codeFields : NameTable :=
  ⟨[("CODE", .null), ("NAME", .text [0x61] ⟨45⟩)], by decide⟩

theorem decode_encode_codeInsert :
    codeInsert.withTables codeVariables codeFields ≠
        codeInsert ∧
      ∃ t,
        decode
            (encode
                (codeInsert.withTables codeVariables
                  codeFields) ++
              [0, 0xFF]) =
          .ok t ∧
        t.SameByName codeInsert ∧
        t.resolve .builtin = codeInsert.resolve .builtin :=
  ⟨by decide,
    decode_encode_withTables (by decide) (by decide)
      (by decide +kernel) [0, 0xFF]⟩

------------------------------------------------------------
-- Writing What Was Read
------------------------------------------------------------

/-
  The variables and the fields that bytes list are no more
  than one each.
-/
def AnnouncesFew
    (bs : List UInt8) : Prop :=
  ∃ c rest, Layout.contents.read bs = .ok (c, rest) ∧
    c.userVariables.length ≤ 1 ∧ c.fields.length ≤ 1

/- At most one entry has no name twice. -/
theorem nodup_names_of_length_le_one
    {entries : List (String × Value)}
    (h : entries.length ≤ 1) :
    (entries.map Prod.fst).Nodup := by
  match entries with
  | [] => exact List.nodup_nil
  | [_] => exact List.nodup_cons.mpr ⟨List.not_mem_nil, .nil⟩

/- Bytes that are read are the capture of what is read. -/
theorem eq_encode_of_read
    (hRead : Layout.statement.read bs = .ok (s, rest))
    (hFew : AnnouncesFew bs) :
    bs = encode s ++ rest := by
  rcases read_eq_ok_iff.mp hRead with ⟨c, hContents, rfl⟩
  rcases hFew with ⟨c', rest', hSame, hVariables, hFields⟩
  rw [hContents] at hSame
  cases hSame
  rw [Layout.isExact_contents.eq_write hContents,
    encode_eq_write, Contents.ofStatement_statement]
  · exact nodup_names_of_length_le_one hVariables
  · exact nodup_names_of_length_le_one hFields

/-
  Nothing is read from a part of a capture.  The contents of
  the part would be those of the capture, with bytes left.
-/
theorem exists_decode_eq_error
    {front back : List UInt8}
    (hSize : (encode s).length < UInt64.size)
    (hParts : encode s = front ++ back)
    (hBack : back ≠ []) :
    ∃ fault, decode front = .error fault := by
  cases hDecode : decode front with
  | error fault => exact ⟨fault, rfl⟩
  | ok t =>
      rcases decode_eq_ok_iff.mp hDecode with ⟨rest, hRead⟩
      rcases read_eq_ok_iff.mp hRead with ⟨c, hContents, _⟩
      have hFront :=
        Layout.isExact_contents.eq_write hContents
      have hLength :
          (Layout.contents.write c).length < UInt64.size := by
        rw [hParts, hFront] at hSize
        simp only [List.length_append] at hSize
        omega
      have hPart :
          Layout.contents.read (encode s) =
            .ok (c, rest ++ back) := by
        rw [hParts, hFront, List.append_assoc]
        exact
          Layout.isExact_contents.read_write hLength _
      have hWhole :
          Layout.contents.read (encode s) =
            .ok (Contents.ofStatement s, []) := by
        rw [encode_eq_write] at hSize ⊢
        have hRead :=
          Layout.isExact_contents.read_write hSize []
        rwa [List.append_nil] at hRead
      rw [hWhole] at hPart
      cases hRest : rest ++ back with
      | nil =>
          exact absurd (List.append_eq_nil_iff.mp hRest).2 hBack
      | cons b others =>
          rw [hRest] at hPart
          cases hPart

/- Statements with the same capture are the same. -/
theorem encode_injective
    (hSize : (encode s).length < UInt64.size)
    (hEq : encode s = encode t) :
    s = t := by
  have hLeft := read_encode hSize []
  rw [hEq] at hSize hLeft
  rw [read_encode hSize []] at hLeft
  cases hLeft
  rfl

/-
  Bytes that announce few entries and are read begin with
  the capture of what is read, so a statement has one such
  spelling.  Different statements have different captures,
  and a part of a capture is not read.
-/
theorem encode_canonical :
    (∀ bs s, decode bs = .ok s → AnnouncesFew bs →
      encode s <+: bs) ∧
    (∀ bs cs s rest rest',
      Layout.statement.read bs = .ok (s, rest) →
        Layout.statement.read cs = .ok (s, rest') →
          AnnouncesFew bs → AnnouncesFew cs →
            ∃ spelling, bs = spelling ++ rest ∧
              cs = spelling ++ rest') ∧
    (∀ s t, (encode s).length < UInt64.size →
      encode s = encode t → s = t) ∧
    ∀ s front, (encode s).length < UInt64.size →
      front <+: encode s → front ≠ encode s →
        ∃ fault, decode front = .error fault := by
  refine ⟨?_, ?_, ?_, ?_⟩
  · intro bs s hDecode hFew
    rcases decode_eq_ok_iff.mp hDecode with ⟨rest, hRead⟩
    exact ⟨rest, (eq_encode_of_read hRead hFew).symm⟩
  · intro bs cs s rest rest' hOne hOther hFew hFewOther
    exact
      ⟨encode s, eq_encode_of_read hOne hFew,
        eq_encode_of_read hOther hFewOther⟩
  · intro s t hSize hEq
    exact encode_injective hSize hEq
  · rintro s front hSize ⟨back, hParts⟩ hNe
    apply exists_decode_eq_error hSize hParts.symm
    rintro rfl
    exact hNe (by rw [← hParts, List.append_nil])

/-
  A query with one variable, one field and a predicate on a
  call.
-/
def dayQuery : Statement where
  config := default
  predicates? :=
    some
      [none,
        some
          ⟨0, 0, 0, .one, .le, .call "LOWER" [.column "day"],
            false⟩]
  schema := ⟨.one, ["day"], [], [], .mysql⟩
  session := ⟨⟨46⟩, ⟨[("tenant", .int 7)], by decide⟩⟩
  request := default
  prepared? := none
  fields := ⟨⟨[("DAY", .int 3)], by decide⟩⟩
  isInsert := false

/- What follows a capture without entries can not add any. -/
theorem announcesFew_dayQuery
    (rest : List UInt8) :
    AnnouncesFew (encode dayQuery ++ rest) := by
  refine ⟨Contents.ofStatement dayQuery, rest, ?_, ?_, ?_⟩
  · rw [encode_eq_write]
    exact
      Layout.isExact_contents.read_write
        (by decide +kernel) rest
  · decide
  · decide

theorem encode_dayQuery :
    decode (encode dayQuery ++ [7]) = .ok dayQuery ∧
      encode dayQuery <+: encode dayQuery ++ [7] ∧
      (∃ spelling,
        encode dayQuery ++ [7] = spelling ++ [7] ∧
          encode dayQuery ++ [8] = spelling ++ [8]) ∧
      encode dayQuery ≠
        encode { dayQuery with isInsert := true } ∧
      ∃ fault,
        decode ((encode dayQuery).take 100) = .error fault :=
  have hSize : (encode dayQuery).length < UInt64.size := by
    decide +kernel
  have hRead := read_encode hSize
  have hDecode :
      decode (encode dayQuery ++ [7]) = .ok dayQuery :=
    decode_eq_ok_iff.mpr ⟨[7], hRead [7]⟩
  ⟨hDecode,
    encode_canonical.1 _ _ hDecode (announcesFew_dayQuery _),
    encode_canonical.2.1 _ _ _ _ _ (hRead [7]) (hRead [8])
      (announcesFew_dayQuery _) (announcesFew_dayQuery _),
    fun hEq =>
      absurd (encode_canonical.2.2.1 _ _ hSize hEq)
        (by decide),
    encode_canonical.2.2.2 _ _ hSize (List.take_prefix 100 _)
      (by decide +kernel)⟩

end Capture

end PartitionPruning
