import PartitionPruning.Proofs.Wire.Access
import PartitionPruning.Proofs.Wire.Reading

/-
  Values that are read and values that are passed over.

  A value ends at the same byte either way.  What can be
  read can be passed over, and what can be passed over can
  be read unless its type is not read or it does not fit
  into 64 bits with a sign.  Hence a parameter starts at the
  same byte whichever of those before it are read.

  Key definitions include:
    * `ParamType.Unread`
    * `Block.walk`

  Main declarations:
    * `ParamType.skip_eq_ok_iff`
    * `ParamType.skip_of_decode`
    * `ParamType.decode_of_skip`
    * `Block.walk_readsNone_of_walk`
    * `Block.select_of_walk`
    * `Block.skip_inStep`
-/

namespace PartitionPruning

------------------------------------------------------------
-- Numbers
------------------------------------------------------------

namespace LittleEndian

/- Numbers with a sign lie on both sides of zero. -/
theorem signed_bounds
    (bs : List UInt8) :
    -span bs.length ≤ 2 * signed bs ∧
      2 * signed bs < span bs.length := by
  have hLess := value_lt bs
  unfold signed
  dsimp only
  split <;> omega

theorem inRange_signed_of_le
    {bs : List UInt8}
    (hLength : bs.length ≤ 8) :
    Integer.InRange (signed bs) := by
  have hBounds := signed_bounds bs
  have hSpan := span_le_span hLength
  have hEight : span 8 = 18446744073709551616 := by decide
  rw [Integer.inRange_iff]
  omega

/- Unsigned numbers of four bytes fit with a sign in eight. -/
theorem inRange_value_of_le
    {bs : List UInt8}
    (hLength : bs.length ≤ 4) :
    Integer.InRange (value bs) := by
  have hLess := value_lt bs
  have hSpan := span_le_span hLength
  have hFour : span 4 = 4294967296 := by decide
  rw [Integer.inRange_iff]
  omega

end LittleEndian

------------------------------------------------------------
-- Parts Of Packets
------------------------------------------------------------

namespace Wire

variable {bs rest : List UInt8}
variable {v : Value}

/- The number that bytes denote, with a sign or without. -/
def numeral
    (unsigned : Bool)
    (bytes : List UInt8) : Int :=
  if unsigned then (LittleEndian.value bytes : Int)
  else LittleEndian.signed bytes

/- An integer is read from its own bytes, and may not fit. -/
theorem integer_append
    (part : WirePart)
    {width : Nat}
    {body : List UInt8}
    (unsigned : Bool)
    (hLength : body.length = width) :
    integer part width unsigned (body ++ rest) =
      match Integer.narrow? (numeral unsigned body) with
      | some w => .ok (.int w, rest)
      | none =>
          .error (.valueOutOfRange (LittleEndian.value body)) := by
  rw [integer, take_append part hLength]
  rfl

/- An integer that is read takes its width. -/
theorem exists_of_integer_eq_ok
    {part : WirePart}
    {width : Nat}
    {unsigned : Bool}
    (h : integer part width unsigned bs = .ok (v, rest)) :
    ∃ body, bs = body ++ rest ∧ body.length = width := by
  rcases Steps.bind_eq_ok_iff.mp h with
    ⟨⟨body, after⟩, hTake, hValue⟩
  rcases take_eq_ok_iff.mp hTake with ⟨rfl, hLength⟩
  refine ⟨body, ?_, hLength⟩
  dsimp only at hValue
  split at hValue
  · cases hValue
    rfl
  · cases hValue

/- A string is the bytes that its length announces. -/
theorem string_eq_ok_iff :
    string bs = .ok (v, rest) ↔
      ∃ body, encodedLength bs = .ok (body.length, body ++ rest) ∧
        v = .text body default := by
  constructor
  · intro h
    rcases Steps.bind_eq_ok_iff.mp h with
      ⟨⟨size, after⟩, hLength, hRest⟩
    rcases Steps.bind_eq_ok_iff.mp hRest with
      ⟨⟨body, last⟩, hTake, hValue⟩
    rcases take_eq_ok_iff.mp hTake with ⟨rfl, rfl⟩
    cases hValue
    exact ⟨body, hLength, rfl⟩
  · rintro ⟨body, hLength, rfl⟩
    rw [string, hLength, Steps.ok_bind]
    dsimp only
    rw [take_append .stringValue rfl]
    rfl

end Wire

------------------------------------------------------------
-- Types
------------------------------------------------------------

namespace FieldType

/- The field types whose values are not read. -/
def notRead : List FieldType :=
  [float, double, date, time, dateTime, timestamp]

/- Values that are floating or temporal are not read. -/
theorem mem_notRead_of_form
    {t : FieldType}
    (h :
      (∃ width, t.form = .floating width) ∨
        t.form = .temporal) :
    t ∈ notRead := by
  cases t <;> simp_all [form, notRead]

/- One field type has integers of more than four bytes. -/
theorem width_cases
    {t : FieldType}
    {width : Nat}
    (h : t.form = .integer width) :
    width ≤ 4 ∨ (t = .longLong ∧ width = 8) := by
  cases t <;> simp_all [form] <;> omega

end FieldType

------------------------------------------------------------
-- One Value
------------------------------------------------------------

namespace ParamType

open Wire

/-
  Why a value is not read that is there: its type is not
  read at all, or it is an unsigned number of eight bytes
  that is too great.
-/
inductive Unread
    (t : ParamType) : WireError → Prop where
  | otherType
      (unsupported : t.fieldType ∈ FieldType.notRead) :
      Unread t (.unsupportedType t.fieldType)
  | tooGreat
      {n : Nat}
      (isLong : t.fieldType = .longLong)
      (isUnsigned : t.unsigned = true)
      (great : Int64.maxValue.toInt < n) :
      Unread t (.valueOutOfRange n)

variable {t : ParamType}
variable {bs rest : List UInt8}
variable {v : Value}

theorem decode_of_mem_notRead
    (h : t.fieldType ∈ FieldType.notRead)
    (bs : List UInt8) :
    t.decode bs = .error (.unsupportedType t.fieldType) := by
  rcases t with ⟨fieldType, unsigned⟩
  cases fieldType <;> first | rfl | simp [FieldType.notRead] at h

/- An integer that does not fit is an unsigned long one. -/
theorem unread_of_not_inRange
    {width : Nat}
    {body : List UInt8}
    (hForm : t.fieldType.form = .integer width)
    (hLength : body.length = width)
    (h : ¬ Integer.InRange (numeral t.unsigned body)) :
    t.Unread (.valueOutOfRange (LittleEndian.value body)) := by
  have hWidth := FieldType.width_cases hForm
  unfold numeral at h
  cases hUnsigned : t.unsigned with
  | false =>
      rw [hUnsigned, if_neg Bool.false_ne_true] at h
      exact
        absurd (LittleEndian.inRange_signed_of_le (by omega)) h
  | true =>
      rw [hUnsigned, if_pos rfl] at h
      rcases hWidth with hShort | ⟨hLong, _⟩
      · exact
          absurd (LittleEndian.inRange_value_of_le (by omega)) h
      · refine .tooGreat hLong hUnsigned ?_
        rw [Integer.inRange_iff] at h
        rw [Int64.toInt_maxValue]
        omega

/- A value is passed over where its bytes are there. -/
theorem skip_eq_ok_iff :
    t.skip bs = .ok rest ↔
      ∃ body, t.extent bs = .ok (body.length, body ++ rest) := by
  constructor
  · intro h
    rcases Steps.bind_eq_ok_iff.mp h with
      ⟨⟨size, after⟩, hExtent, hRest⟩
    rcases Steps.bind_eq_ok_iff.mp hRest with
      ⟨⟨body, last⟩, hTake, hDone⟩
    rcases take_eq_ok_iff.mp hTake with ⟨rfl, rfl⟩
    cases hDone
    exact ⟨body, hExtent⟩
  · rintro ⟨body, hExtent⟩
    rw [skip, hExtent, Steps.ok_bind]
    dsimp only
    rw [take_append .skippedValue rfl]
    rfl

/- What is read can be passed over, up to the same byte. -/
theorem skip_of_decode
    (h : t.decode bs = .ok (v, rest)) :
    t.skip bs = .ok rest := by
  rw [skip_eq_ok_iff, t.extent_eq]
  have hDecode := t.decode_eq
  cases hForm : t.fieldType.form with
  | nothing =>
      rw [hForm] at hDecode
      rw [hDecode] at h
      cases h
      exact ⟨[], rfl⟩
  | integer width =>
      rw [hForm] at hDecode
      rcases hDecode with ⟨part, hDecode⟩
      rw [hDecode] at h
      rcases exists_of_integer_eq_ok h with ⟨body, rfl, rfl⟩
      exact ⟨body, rfl⟩
  | floating width =>
      have hUnread :=
        FieldType.mem_notRead_of_form (.inl ⟨width, hForm⟩)
      rw [decode_of_mem_notRead hUnread] at h
      cases h
  | temporal =>
      have hUnread := FieldType.mem_notRead_of_form (.inr hForm)
      rw [decode_of_mem_notRead hUnread] at h
      cases h
  | text =>
      rw [hForm] at hDecode
      rw [hDecode] at h
      rcases string_eq_ok_iff.mp h with ⟨body, hLength, _⟩
      exact ⟨body, hLength⟩

/-
  What can be passed over is read up to the same byte, if it
  is read.
-/
theorem decode_of_skip
    (h : t.skip bs = .ok rest) :
    (∃ v, t.decode bs = .ok (v, rest)) ∨
      ∃ cause, t.Unread cause ∧
        t.decode bs = .error cause := by
  rcases skip_eq_ok_iff.mp h with ⟨body, hExtent⟩
  rw [t.extent_eq] at hExtent
  have hDecode := t.decode_eq
  cases hForm : t.fieldType.form with
  | nothing =>
      rw [hForm] at hDecode hExtent
      simp only [Except.ok.injEq, Prod.mk.injEq] at hExtent
      rcases hExtent with ⟨hEmpty, rfl⟩
      rw [List.eq_nil_of_length_eq_zero hEmpty.symm, hDecode]
      exact .inl ⟨.null, rfl⟩
  | integer width =>
      rw [hForm] at hDecode hExtent
      simp only [Except.ok.injEq, Prod.mk.injEq] at hExtent
      rcases hExtent with ⟨hLength, rfl⟩
      rcases hDecode with ⟨part, hDecode⟩
      rw [hDecode, integer_append part t.unsigned hLength.symm]
      by_cases hRange :
          Integer.InRange (numeral t.unsigned body)
      · rcases Integer.narrow?_of_inRange hRange with
          ⟨w, _, hNarrow⟩
        rw [hNarrow]
        exact .inl ⟨.int w, rfl⟩
      · have hNarrow :
            Integer.narrow? (numeral t.unsigned body) = none :=
          if_neg hRange
        rw [hNarrow]
        have hUnread :=
          unread_of_not_inRange hForm hLength.symm hRange
        exact .inr ⟨_, hUnread, rfl⟩
  | floating width =>
      have hUnread :=
        FieldType.mem_notRead_of_form (.inl ⟨width, hForm⟩)
      exact
        .inr ⟨_, .otherType hUnread,
          decode_of_mem_notRead hUnread bs⟩
  | temporal =>
      have hUnread := FieldType.mem_notRead_of_form (.inr hForm)
      exact
        .inr ⟨_, .otherType hUnread,
          decode_of_mem_notRead hUnread bs⟩
  | text =>
      rw [hForm] at hDecode hExtent
      rw [hDecode]
      exact
        .inl ⟨_, string_eq_ok_iff.mpr ⟨body, hExtent, rfl⟩⟩

end ParamType

------------------------------------------------------------
-- Walks
------------------------------------------------------------

namespace Block

/-
  The bytes after the values of parameters, from parameter
  `i` on.  Those at the indexes in `reads` are read, and the
  others are passed over.
-/
def walk
    (bitmap : List UInt8)
    (reads : Nat → Bool) :
    Nat → List ParamType → List UInt8 →
      Except WireError (List UInt8)
  | _, [], bs => .ok bs
  | i, t :: ts, bs =>
      if isNull bitmap i then
        walk bitmap reads (i + 1) ts bs
      else if reads i then do
        let (_, rest) ← t.decode bs
        walk bitmap reads (i + 1) ts rest
      else do
        let rest ← t.skip bs
        walk bitmap reads (i + 1) ts rest

/- No parameter is read. -/
def readsNone
    (_ : Nat) : Bool :=
  false

variable {bitmap : List UInt8}
variable {reads : Nat → Bool}
variable {ts : List ParamType}
variable {bs rest : List UInt8}

/-
  A walk that reads ends where a walk ends that does not.
-/
theorem walk_readsNone_of_walk
    {i : Nat}
    (h : walk bitmap reads i ts bs = .ok rest) :
    walk bitmap readsNone i ts bs = .ok rest := by
  induction ts generalizing i bs with
  | nil => exact h
  | cons t ts ih =>
      rw [walk] at h ⊢
      split at h
      · next hNull =>
          rw [if_pos hNull]
          exact ih h
      · next hValue =>
          rw [if_neg hValue, readsNone,
            if_neg Bool.false_ne_true]
          split at h
          · rcases Steps.bind_eq_ok_iff.mp h with
              ⟨⟨v, after⟩, hDecode, hRest⟩
            rw [ParamType.skip_of_decode hDecode, Steps.ok_bind]
            exact ih hRest
          · rcases Steps.bind_eq_ok_iff.mp h with
              ⟨after, hSkip, hRest⟩
            rw [hSkip, Steps.ok_bind]
            exact ih hRest

/-
  A walk that reads nothing ends where one ends that reads,
  unless that one comes to a value that is not read.
-/
theorem walk_of_walk_readsNone
    {i : Nat}
    (reads : Nat → Bool)
    (h : walk bitmap readsNone i ts bs = .ok rest) :
    walk bitmap reads i ts bs = .ok rest ∨
      ∃ cause, (∃ t ∈ ts, t.Unread cause) ∧
        walk bitmap reads i ts bs = .error cause := by
  induction ts generalizing i bs with
  | nil => exact .inl h
  | cons t ts ih =>
      have hOthers :
          ∀ {j after},
            walk bitmap readsNone j ts after = .ok rest →
              walk bitmap reads j ts after = .ok rest ∨
                ∃ cause, (∃ u ∈ t :: ts, u.Unread cause) ∧
                  walk bitmap reads j ts after =
                    .error cause := by
        intro j after hWalk
        rcases ih hWalk with
          hEnd | ⟨cause, ⟨u, hMember, hUnread⟩, hStop⟩
        · exact .inl hEnd
        · have hAmong := List.mem_cons_of_mem t hMember
          exact .inr ⟨cause, ⟨u, hAmong, hUnread⟩, hStop⟩
      rw [walk] at h ⊢
      split at h
      · next hNull =>
          rw [if_pos hNull]
          exact hOthers h
      · next hValue =>
          rw [readsNone, if_neg Bool.false_ne_true] at h
          rcases Steps.bind_eq_ok_iff.mp h with
            ⟨after, hSkip, hRest⟩
          rw [if_neg hValue]
          split
          · rcases ParamType.decode_of_skip hSkip with
              ⟨v, hDecode⟩ | ⟨cause, hCause, hDecode⟩
            · rw [hDecode]
              exact hOthers hRest
            · have hFirst : t ∈ t :: ts := List.mem_cons_self
              rw [hDecode]
              exact .inr ⟨cause, ⟨t, hFirst, hCause⟩, rfl⟩
          · rw [hSkip]
            exact hOthers hRest

/-
  A parameter is read at the byte where any walk ends over
  those before it.
-/
theorem select_of_walk
    {i : Nat}
    {before : List ParamType}
    (count : Nat)
    (t : ParamType)
    (after : List ParamType)
    (h : walk bitmap reads i before bs = .ok rest) :
    select bitmap count (i + before.length) i
        (before ++ t :: after) bs =
      if isNull bitmap (i + before.length) then .ok .null
      else (t.decode rest).map Prod.fst := by
  -- `select` passes over all of them, as a walk does that
  -- reads none.
  replace h := walk_readsNone_of_walk h
  induction before generalizing i bs with
  | nil =>
      cases h
      rw [List.length_nil, Nat.add_zero, List.nil_append, select,
        if_pos rfl, if_pos rfl]
      rcases t.decode rest with _ | ⟨v, last⟩ <;> rfl
  | cons u before ih =>
      have hNe : ¬ i = i + (before.length + 1) := by omega
      rw [List.length_cons, List.cons_append, select, if_neg hNe,
        if_neg hNe, Nat.add_comm before.length, ← Nat.add_assoc]
      rw [walk] at h
      split at h
      · next hNull =>
          rw [if_pos hNull]
          exact ih h
      · next hValue =>
          rw [readsNone, if_neg Bool.false_ne_true] at h
          rcases Steps.bind_eq_ok_iff.mp h with
            ⟨last, hSkip, hRest⟩
          rw [if_neg hValue, hSkip, Steps.ok_bind]
          exact ih hRest

/-
  Reading and passing over stay in step: value by value, and
  over the values of any parameters.
-/
theorem skip_inStep :
    (∀ (t : ParamType) (bs : List UInt8),
        (∀ v rest,
          t.decode bs = .ok (v, rest) → t.skip bs = .ok rest) ∧
        (∀ rest,
          t.skip bs = .ok rest →
            (∃ v, t.decode bs = .ok (v, rest)) ∨
              ∃ cause, t.Unread cause ∧
                t.decode bs = .error cause)) ∧
      (∀ bitmap reads i ts bs rest,
        (walk bitmap reads i ts bs = .ok rest →
          walk bitmap readsNone i ts bs = .ok rest) ∧
        (walk bitmap readsNone i ts bs = .ok rest →
          walk bitmap reads i ts bs = .ok rest ∨
            ∃ cause, (∃ t ∈ ts, t.Unread cause) ∧
              walk bitmap reads i ts bs = .error cause)) ∧
      (∀ bitmap reads i before bs rest,
        walk bitmap reads i before bs = .ok rest →
          ∀ count t after,
            select bitmap count (i + before.length) i
                (before ++ t :: after) bs =
              if isNull bitmap (i + before.length) then .ok .null
              else (t.decode rest).map Prod.fst) := by
  refine
    ⟨fun t bs => ⟨?_, ?_⟩,
      fun bitmap reads i ts bs rest => ⟨?_, ?_⟩, ?_⟩
  · intro v rest hDecode
    exact ParamType.skip_of_decode hDecode
  · intro rest hSkip
    exact ParamType.decode_of_skip hSkip
  · exact walk_readsNone_of_walk
  · exact walk_of_walk_readsNone reads
  · intro bitmap reads i before bs rest hWalk count t after
    exact select_of_walk count t after hWalk

/-
  A long number that does not fit into 64 bits with a sign,
  and a time.
-/
def unreadTypes : List ParamType :=
  [⟨.longLong, true⟩, ⟨.dateTime, false⟩]

/- The values of `unreadTypes`, and a text after them. -/
def unreadBytes : List UInt8 :=
  List.replicate 8 0xFF ++ [2, 10, 11] ++ [2, 97, 98]

theorem skip_inStep_unreadBytes :
    walk [0] readsNone 0 unreadTypes unreadBytes =
        .ok [2, 97, 98] ∧
      (∃ cause, (∃ t ∈ unreadTypes, t.Unread cause) ∧
        walk [0] (fun _ => true) 0 unreadTypes unreadBytes =
          .error cause) ∧
      select [0] 3 2 0 (unreadTypes ++ [⟨.varchar, false⟩])
          unreadBytes =
        .ok (.text [97, 98] default) := by
  have hWalk :
      walk [0] readsNone 0 unreadTypes unreadBytes =
        .ok [2, 97, 98] := by
    rfl
  have hTooGreat :
      walk [0] (fun _ => true) 0 unreadTypes unreadBytes =
        .error (.valueOutOfRange 18446744073709551615) := by
    rfl
  refine ⟨hWalk, ?_, ?_⟩
  · have hReads :=
      (skip_inStep.2.1 [0] (fun _ => true) 0 unreadTypes
        unreadBytes [2, 97, 98]).2 hWalk
    rcases hReads with hEnd | hCause
    · rw [hTooGreat] at hEnd
      cases hEnd
    · exact hCause
  · exact
      skip_inStep.2.2 [0] readsNone 0 unreadTypes unreadBytes
        [2, 97, 98] hWalk 3 ⟨.varchar, false⟩ []

end Block

end PartitionPruning
