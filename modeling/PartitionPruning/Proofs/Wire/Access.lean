import PartitionPruning.Proofs.Guarded
import PartitionPruning.Proofs.Wire.Needs

/-
  Access to the bytes of parameter values.

  Reading makes sure that there are as many bytes as it is
  about to take, and fails where there are fewer.  Guarded,
  it takes them one part after another, and neither asks for
  a byte beyond those that are left nor keeps a length that
  does not fit into 64 bits.

  Key definitions include:
    * `Guarded.ensure`
    * `Guarded.take`
    * `Guarded.takeTwo`
    * `Guarded.decode`
    * `Guarded.skip`

  Main declarations:
    * `Guarded.computes_take`
    * `Guarded.computes_takeTwo`
    * `Guarded.computes_encodedLength`
    * `Guarded.computes_decode`
    * `Guarded.computes_skip`
-/

namespace PartitionPruning

/- More bytes hold greater numbers. -/
theorem LittleEndian.span_le_span
    {m n : Nat}
    (h : m ≤ n) :
    span m ≤ span n := by
  induction h with
  | refl => exact Nat.le_refl _
  | step _ ih =>
      rw [span]
      omega

namespace Guarded

variable {bs : List UInt8}

------------------------------------------------------------
-- Pieces
------------------------------------------------------------

/- A failure if fewer bytes are left than a part needs. -/
def ensure
    (part : WirePart)
    (needed : UInt64)
    (bs : List UInt8) : Guarded WireError Unit :=
  if bs.length < needed.toNat then
    .error (.failed (.truncated part needed.toNat bs.length))
  else .ok ()

/- A part of so many bytes, which are known to be there. -/
def take
    (part : WirePart)
    (n : UInt64)
    (bs : List UInt8) :
    Guarded WireError (List UInt8 × List UInt8) := do
  ensure part n bs
  next n bs

/-
  A part in two pieces: all of it is known to be there, and
  the pieces are taken one after the other.
-/
def takeTwo
    (part : WirePart)
    (needed m n : UInt64)
    (bs : List UInt8) :
    Guarded WireError
      (List UInt8 × List UInt8 × List UInt8) := do
  ensure part needed bs
  let (front, rest) ← next m bs
  let (back, rest) ← next n rest
  .ok (front, back, rest)

/- A number of eight bytes or fewer. -/
def number
    (bytes : List UInt8) : UInt64 :=
  UInt64.ofNat (LittleEndian.value bytes)

/- A part that is a number. -/
def takeNumber
    (part : WirePart)
    (width : UInt64)
    (bs : List UInt8) :
    Guarded WireError (UInt64 × List UInt8) := do
  let (bytes, rest) ← take part width bs
  .ok (number bytes, rest)

/- Two pieces that make a part, before the same bytes. -/
structure ArePieces
    (m n : UInt64)
    (a : List UInt8 × List UInt8 × List UInt8)
    (b : List UInt8 × List UInt8) : Prop where
  parts : a.1 ++ a.2.1 = b.1
  rest : a.2.2 = b.2
  front : a.1.length = m.toNat
  back : a.2.1.length = n.toNat

/- The same number, before the same bytes. -/
def SameNumber
    (a : UInt64 × List UInt8)
    (b : Nat × List UInt8) : Prop :=
  a.1.toNat = b.1 ∧ a.2 = b.2

/- Too few bytes are an error and no stop. -/
theorem ensure_of_lt
    {part : WirePart}
    {needed : UInt64}
    (h : bs.length < needed.toNat) :
    ensure part needed bs =
      .error
        (.failed
          (.truncated part needed.toNat bs.length)) :=
  if_pos h

theorem ensure_of_le
    {part : WirePart}
    {needed : UInt64}
    (h : needed.toNat ≤ bs.length) :
    ensure part needed bs = .ok () :=
  if_neg (Nat.not_lt.mpr h)

/- Bytes that are there are some in front of others. -/
theorem exists_append_of_le
    {n : Nat}
    (h : n ≤ bs.length) :
    ∃ front rest, bs = front ++ rest ∧ front.length = n :=
  ⟨bs.take n, bs.drop n, (List.take_append_drop n bs).symm,
    List.length_take_of_le h⟩

/- Bytes that are known to be there are there. -/
theorem computes_take
    (part : WirePart)
    (n : UInt64)
    (bs : List UInt8) :
    Computes Eq (take part n bs)
      (Wire.take part n.toNat bs) := by
  unfold take
  rcases Nat.lt_or_ge bs.length n.toNat with hFew | hEnough
  · rw [ensure_of_lt hFew, Wire.take_of_lt part hFew]
    exact .failed _
  · rw [ensure_of_le hEnough]
    rcases exists_append_of_le hEnough with
      ⟨front, rest, rfl, hLength⟩
    rw [Steps.ok_bind, next_append hLength,
      Wire.take_append part hLength]
    exact .ok rfl

/- The pieces are there if the whole of them is. -/
theorem computes_takeTwo
    (part : WirePart)
    {needed m n : UInt64}
    (h : needed.toNat = m.toNat + n.toNat)
    (bs : List UInt8) :
    Computes (ArePieces m n) (takeTwo part needed m n bs)
      (Wire.take part needed.toNat bs) := by
  unfold takeTwo
  rcases Nat.lt_or_ge bs.length needed.toNat with
    hFew | hEnough
  · rw [ensure_of_lt hFew, Wire.take_of_lt part hFew]
    exact .failed _
  · rw [ensure_of_le hEnough, Steps.ok_bind]
    rcases exists_append_of_le hEnough with
      ⟨whole, rest, rfl, hWhole⟩
    have hInside : m.toNat ≤ whole.length := by omega
    rcases exists_append_of_le hInside with
      ⟨front, back, rfl, hFront⟩
    have hBack : back.length = n.toNat := by
      rw [List.length_append] at hWhole
      omega
    rw [Wire.take_append part hWhole, List.append_assoc,
      next_append hFront, Steps.ok_bind]
    dsimp only
    rw [next_append hBack]
    exact .ok ⟨rfl, rfl, hFront, hBack⟩

/- A number of eight bytes at most fits into 64 bits. -/
theorem toNat_number
    {bytes : List UInt8}
    (h : bytes.length ≤ 8) :
    (number bytes).toNat = LittleEndian.value bytes := by
  have hLess := LittleEndian.value_lt bytes
  have hSpan := LittleEndian.span_le_span h
  have hSize : LittleEndian.span 8 = UInt64.size := by decide
  apply UInt64.toNat_ofNat_of_lt
  rw [← hSize]
  exact Nat.lt_of_lt_of_le hLess hSpan

/- A number is read from bytes that were ensured. -/
theorem computes_takeNumber
    (part : WirePart)
    {width : UInt64}
    (h : width.toNat ≤ 8)
    (bs : List UInt8) :
    Computes SameNumber (takeNumber part width bs)
      (Wire.number part width.toNat bs) := by
  apply (computes_take part width bs).bind
  rintro _ ⟨bytes, rest⟩ hTake rfl
  have hLength := (Wire.take_eq_ok_iff.mp hTake).2
  exact .ok ⟨toNat_number (by omega), rfl⟩

------------------------------------------------------------
-- Values
------------------------------------------------------------

/- A length that says how wide it is. -/
def encodedLength
    (bs : List UInt8) :
    Guarded WireError (UInt64 × List UInt8) := do
  let (first, rest) ← takeNumber .encodedLength 1 bs
  match first.toNat with
  | 0xFC => takeNumber .encodedLength 2 rest
  | 0xFD => takeNumber .encodedLength 3 rest
  | 0xFE => takeNumber .encodedLength 8 rest
  | _ => .ok (first, rest)

/- An integer of `width` bytes. -/
def integer
    (part : WirePart)
    (width : UInt64)
    (unsigned : Bool)
    (bs : List UInt8) :
    Guarded WireError (Value × List UInt8) := do
  let (bytes, rest) ← take part width bs
  let i :=
    if unsigned then (LittleEndian.value bytes : Int)
    else LittleEndian.signed bytes
  match Integer.narrow? i with
  | some v => .ok (.int v, rest)
  | none =>
      .error
        (.failed (.valueOutOfRange (LittleEndian.value bytes)))

/- A string after its length. -/
def string
    (bs : List UInt8) :
    Guarded WireError (Value × List UInt8) := do
  let (size, rest) ← encodedLength bs
  let (bytes, rest) ← take .stringValue size rest
  .ok (.text bytes default, rest)

/- The value of a parameter and the bytes after it. -/
def decode
    (t : ParamType)
    (bs : List UInt8) :
    Guarded WireError (Value × List UInt8) :=
  match t.fieldType with
  | .null => .ok (.null, bs)
  | .tiny => integer .tinyValue 1 t.unsigned bs
  | .short => integer .shortValue 2 t.unsigned bs
  | .year => integer .shortValue 2 t.unsigned bs
  | .long => integer .longValue 4 t.unsigned bs
  | .int24 => integer .longValue 4 t.unsigned bs
  | .longLong => integer .longLongValue 8 t.unsigned bs
  | fieldType =>
      if fieldType.isLengthEncoded then string bs
      else .error (.failed (.unsupportedType fieldType))

/- How many bytes the value of a parameter takes. -/
def extent
    (t : ParamType)
    (bs : List UInt8) :
    Guarded WireError (UInt64 × List UInt8) :=
  match t.fieldType with
  | .null => .ok (0, bs)
  | .tiny => .ok (1, bs)
  | .short => .ok (2, bs)
  | .year => .ok (2, bs)
  | .long => .ok (4, bs)
  | .int24 => .ok (4, bs)
  | .float => .ok (4, bs)
  | .longLong => .ok (8, bs)
  | .double => .ok (8, bs)
  | .date => takeNumber .temporalLength 1 bs
  | .time => takeNumber .temporalLength 1 bs
  | .dateTime => takeNumber .temporalLength 1 bs
  | .timestamp => takeNumber .temporalLength 1 bs
  | _ => encodedLength bs

/- The bytes after the value of a parameter. -/
def skip
    (t : ParamType)
    (bs : List UInt8) :
    Guarded WireError (List UInt8) := do
  let (size, rest) ← extent t bs
  let (_, rest) ← take .skippedValue size rest
  .ok rest

/- A length is read after its first byte tells its width. -/
theorem computes_encodedLength
    (bs : List UInt8) :
    Computes SameNumber (encodedLength bs)
      (Wire.encodedLength bs) := by
  have hOne : (1 : UInt64).toNat ≤ 8 := by decide
  apply (computes_takeNumber .encodedLength hOne bs).bind
  rintro ⟨first, rest⟩ ⟨n, _⟩ _ ⟨hFirst, rfl⟩
  dsimp only at hFirst ⊢
  rw [hFirst]
  -- Both readings go by the first byte, in the same cases.
  repeat' split
  all_goals
    first
      | contradiction
      | exact computes_takeNumber _ (by decide) rest
      | exact .ok ⟨hFirst, rfl⟩

/- An integer is read from bytes that were ensured. -/
theorem computes_integer
    (part : WirePart)
    (width : UInt64)
    (unsigned : Bool)
    (bs : List UInt8) :
    Computes Eq (integer part width unsigned bs)
      (Wire.integer part width.toNat unsigned bs) := by
  apply (computes_take part width bs).bind
  rintro _ ⟨bytes, rest⟩ _ rfl
  dsimp only
  generalize Integer.narrow? _ = narrowed
  cases narrowed with
  | none => exact .failed _
  | some v => exact .ok rfl

/- The announced length is that of bytes that are there. -/
theorem computes_string
    (bs : List UInt8) :
    Computes Eq (string bs) (Wire.string bs) := by
  apply (computes_encodedLength bs).bind
  rintro ⟨size, rest⟩ ⟨_, _⟩ _ ⟨rfl, rfl⟩
  apply (computes_take .stringValue size rest).bind
  rintro _ ⟨bytes, rest⟩ _ rfl
  exact .ok rfl

/- No value of any type is read beyond its packet. -/
theorem computes_decode
    (t : ParamType)
    (bs : List UInt8) :
    Computes Eq (decode t bs) (t.decode bs) := by
  unfold decode ParamType.decode
  cases t.fieldType <;>
    first
      | exact .ok rfl
      | exact computes_integer _ _ _ _
      | exact computes_string _
      | exact .failed _

/-
  How far a value goes is known from its type or from
  bytes that are there.
-/
theorem computes_extent
    (t : ParamType)
    (bs : List UInt8) :
    Computes SameNumber (extent t bs) (t.extent bs) := by
  unfold extent ParamType.extent
  cases t.fieldType <;>
    first
      | exact .ok ⟨rfl, rfl⟩
      | exact computes_takeNumber _ (by decide) bs
      | exact computes_encodedLength bs

/- No value of any type is passed over beyond its packet. -/
theorem computes_skip
    (t : ParamType)
    (bs : List UInt8) :
    Computes Eq (skip t bs) (t.skip bs) := by
  apply (computes_extent t bs).bind
  rintro ⟨size, rest⟩ ⟨_, _⟩ _ ⟨rfl, rfl⟩
  apply (computes_take .skippedValue size rest).bind
  rintro _ ⟨bytes, rest⟩ _ rfl
  exact .ok rfl

end Guarded

end PartitionPruning
