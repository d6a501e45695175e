import PartitionPruning.Failure
import PartitionPruning.Proofs.Wire.Reading

/-
  The stored form of values is exact.

  A value reads back from its stored form in front of any
  bytes, and bytes that give a value begin with its stored
  form.  All other bytes are refused, and so are the strings
  whose length does not fit into four bytes.

  Key definitions include:
    * `Stored.IsRefused`

  Main declarations:
    * `Value.load_of_store`
    * `Value.exists_store_of_load`
    * `Value.isRefused_load_of_isPrefix`
    * `Value.load_canonical`
-/

namespace PartitionPruning

------------------------------------------------------------
-- Pieces And Refusals
------------------------------------------------------------

namespace Stored

/- So many bytes are taken off the front, or none. -/
theorem take_eq_ok_iff
    {part : Part}
    {n : Nat}
    {bs front rest : List UInt8} :
    take part n bs = .ok (front, rest) ↔
      bs = front ++ rest ∧ front.length = n := by
  rw [← LittleEndian.split?_eq_some_iff]
  unfold take
  cases LittleEndian.split? n bs <;> simp

theorem take_append
    (part : Part)
    {n : Nat}
    {front rest : List UInt8}
    (hLength : front.length = n) :
    take part n (front ++ rest) = .ok (front, rest) :=
  take_eq_ok_iff.mpr ⟨rfl, hLength⟩

/- There is no result, because the argument is invalid. -/
def IsRefused
    {α : Type}
    (result : Except Fault α) : Prop :=
  ∃ fault, result = .error fault ∧
    (Failure.stored fault).kind = .invalidArgument

/-
  What is refused gives no value, and what gives none is
  refused.
-/
theorem isRefused_iff
    {α : Type}
    {result : Except Fault α} :
    IsRefused result ↔ ∀ a, result ≠ .ok a := by
  constructor
  · rintro ⟨fault, rfl, _⟩ a hSome
    cases hSome
  · intro hNone
    cases result with
    | error fault => exact ⟨fault, rfl, rfl⟩
    | ok a => exact absurd rfl (hNone a)

end Stored

------------------------------------------------------------
-- Integers
------------------------------------------------------------

namespace LittleEndian

/- Signed numbers count like the unsigned ones of their bytes. -/
theorem signed_emod
    (bs : List UInt8) :
    signed bs % span bs.length = value bs := by
  have hLess := value_lt bs
  unfold signed
  dsimp only
  split
  · exact Int.emod_eq_of_lt (by omega) (by omega)
  · rw [Int.sub_emod_right]
    exact Int.emod_eq_of_lt (by omega) (by omega)

/- The bytes of a signed number are those it was read from. -/
theorem encode_signed
    (bs : List UInt8) :
    encode bs.length (signed bs % span bs.length).toNat =
      bs := by
  rw [signed_emod, Int.toNat_natCast, encode_value]

theorem inRange_signed
    {bs : List UInt8}
    (hLength : bs.length = 8) :
    Integer.InRange (signed bs) := by
  have hLess := value_lt bs
  have hSpan : span 8 = 18446744073709551616 := by decide
  rw [hLength, hSpan] at hLess
  unfold signed
  dsimp only
  rw [hLength, hSpan, Integer.inRange_iff]
  split <;> omega

/- The unsigned reading of a 64-bit integer. -/
theorem toNat_toUInt64
    (v : Int64) :
    v.toUInt64.toNat = (v.toInt % span 8).toNat := by
  have hSmall := v.toBitVec.isLt
  have hNat : v.toUInt64.toNat = v.toBitVec.toNat := rfl
  have hSpan : span 8 = 2 ^ 64 := by decide
  rw [hNat, hSpan, Int64.toInt, BitVec.toInt]
  split <;> omega

end LittleEndian

namespace Value

open Stored

variable {v : Value}
variable {bs stored : List UInt8}

/- A stored integer is loaded, whatever follows it. -/
theorem load_of_store_int
    (i : Int64)
    (rest : List UInt8) :
    load (1 :: (LittleEndian.encode 8 i.toUInt64.toNat ++
        rest)) =
      .ok (int i) := by
  have hRange := Integer.inRange_iff.mp (Integer.inRange_toInt i)
  have hSpan :
      LittleEndian.span 8 = 18446744073709551616 := by
    decide
  have hSigned :
      LittleEndian.signed
          (LittleEndian.encode 8 i.toUInt64.toNat) =
        i.toInt := by
    rw [LittleEndian.toNat_toUInt64]
    apply LittleEndian.signed_encode
    · omega
    · omega
  rw [load, take_append .intValue
    (LittleEndian.length_encode 8 i.toUInt64.toNat)]
  simp only [Steps.ok_bind]
  rw [hSigned, Int64.ofInt_toInt]

/- An integer that is loaded was stored. -/
theorem exists_store_of_load_int
    {rest : List UInt8}
    (h : load (1 :: rest) = .ok v) :
    ∃ stored after, v.store = .ok stored ∧
      1 :: rest = stored ++ after := by
  rcases Steps.bind_eq_ok_iff.mp h with
    ⟨⟨bytes, after⟩, hTake, hValue⟩
  cases hValue
  rcases take_eq_ok_iff.mp hTake with ⟨rfl, hLength⟩
  have hRange := LittleEndian.inRange_signed hLength
  have hSigned :
      (Int64.ofInt (LittleEndian.signed bytes)).toInt =
        LittleEndian.signed bytes :=
    Int64.toInt_ofInt_of_le hRange.1
      (Int.lt_add_one_of_le hRange.2)
  refine ⟨1 :: bytes, after, ?_, rfl⟩
  rw [store, LittleEndian.toNat_toUInt64, hSigned, ← hLength,
    LittleEndian.encode_signed]

------------------------------------------------------------
-- Strings
------------------------------------------------------------

variable {bytes : List UInt8}
variable {c : Collation}

/- A text is stored if its length fits into four bytes. -/
theorem store_text_eq_ok_iff :
    (text bytes c).store = .ok stored ↔
      bytes.length < UInt32.size ∧
        stored =
          2 :: (LittleEndian.encode 2 c.id.toNat ++
            LittleEndian.encode 4 bytes.length ++ bytes) := by
  rw [store]
  by_cases hLess : bytes.length < UInt32.size
  · rw [if_pos hLess, Except.ok.injEq]
    constructor
    · intro hEq
      exact ⟨hLess, hEq.symm⟩
    · intro hEq
      exact hEq.2.symm
  · rw [if_neg hLess]
    simp [hLess]

/- Bytes may follow a stored string. -/
theorem load_of_store_text
    (h : (text bytes c).store = .ok stored)
    (rest : List UInt8) :
    load (stored ++ rest) = .ok (text bytes c) := by
  rcases store_text_eq_ok_iff.mp h with ⟨hLess, rfl⟩
  have hCollation :
      (LittleEndian.encode 2 c.id.toNat).length = 2 :=
    LittleEndian.length_encode _ _
  have hHeader :
      (LittleEndian.encode 2 c.id.toNat ++
          LittleEndian.encode 4 bytes.length).length = 6 := by
    rw [List.length_append, hCollation,
      LittleEndian.length_encode]
  have hId : c.id.toNat < LittleEndian.span 2 :=
    UInt16.toNat_lt c.id
  have hSize : bytes.length < LittleEndian.span 4 := hLess
  rw [List.cons_append, List.append_assoc, load,
    Stored.take_append .stringHeader hHeader]
  simp only [Steps.ok_bind]
  rw [List.take_left' hCollation, List.drop_left' hCollation,
    LittleEndian.value_encode_of_lt hId,
    LittleEndian.value_encode_of_lt hSize,
    Stored.take_append .stringBody rfl]
  simp

/- A header of six bytes is a collation and a length. -/
theorem encode_header
    {header : List UInt8}
    (hLength : header.length = 6) :
    LittleEndian.encode 2
          (UInt16.ofNat
            (LittleEndian.value (header.take 2))).toNat ++
        LittleEndian.encode 4
          (LittleEndian.value (header.drop 2)) =
      header := by
  have hTake : (header.take 2).length = 2 := by
    rw [List.length_take]
    omega
  have hDrop : (header.drop 2).length = 4 := by
    rw [List.length_drop]
    omega
  have hCollation := LittleEndian.encode_value (header.take 2)
  have hSize := LittleEndian.encode_value (header.drop 2)
  have hLess := LittleEndian.value_lt (header.take 2)
  rw [hTake] at hCollation hLess
  rw [hDrop] at hSize
  rw [UInt16.toNat_ofNat_of_lt' hLess, hCollation, hSize,
    List.take_append_drop]

/- A text that is loaded was stored. -/
theorem exists_store_of_load_text
    {rest : List UInt8}
    (h : load (2 :: rest) = .ok v) :
    ∃ stored after, v.store = .ok stored ∧
      2 :: rest = stored ++ after := by
  rcases Steps.bind_eq_ok_iff.mp h with
    ⟨⟨header, body⟩, hHeader, hRest⟩
  rcases Steps.bind_eq_ok_iff.mp hRest with
    ⟨⟨bytes, after⟩, hBody, hValue⟩
  cases hValue
  rcases take_eq_ok_iff.mp hHeader with ⟨rfl, hLength⟩
  rcases take_eq_ok_iff.mp hBody with ⟨rfl, hSize⟩
  have hLess := LittleEndian.value_lt (header.drop 2)
  rw [List.length_drop, hLength] at hLess
  refine ⟨2 :: (header ++ bytes), after, ?_, ?_⟩
  · apply store_text_eq_ok_iff.mpr
    refine ⟨hSize ▸ hLess, ?_⟩
    rw [hSize, encode_header hLength]
  · rw [List.cons_append, List.append_assoc]

------------------------------------------------------------
-- All Values
------------------------------------------------------------

/- Bytes may follow a stored value. -/
theorem load_of_store
    (h : v.store = .ok stored)
    (rest : List UInt8) :
    load (stored ++ rest) = .ok v := by
  cases v with
  | null =>
      cases h
      rfl
  | int i =>
      cases h
      exact load_of_store_int i rest
  | text bytes c => exact load_of_store_text h rest
  | least =>
      cases h
      rfl
  | greatest =>
      cases h
      rfl

/- What is read has been stored, and bytes may follow it. -/
theorem exists_store_of_load
    (h : load bs = .ok v) :
    ∃ stored rest, v.store = .ok stored ∧
      bs = stored ++ rest := by
  unfold load at h
  split at h
  · cases h
  · cases h
    exact ⟨[0], _, rfl, rfl⟩
  · exact exists_store_of_load_int h
  · exact exists_store_of_load_text h
  · cases h
    exact ⟨[3], _, rfl, rfl⟩
  · cases h
    exact ⟨[4], _, rfl, rfl⟩
  · cases h

/-
  A value is loaded exactly from bytes that begin with
  what it is stored as.
-/
theorem load_eq_ok_iff :
    load bs = .ok v ↔
      ∃ stored rest, v.store = .ok stored ∧
        bs = stored ++ rest := by
  constructor
  · exact exists_store_of_load
  · rintro ⟨stored, rest, hStored, rfl⟩
    exact load_of_store hStored rest

------------------------------------------------------------
-- Refused Bytes And Values
------------------------------------------------------------

/- A stored form is refused without its last bytes. -/
theorem isRefused_load_of_isPrefix
    (h : v.store = .ok stored)
    (hPrefix : bs <+: stored)
    (hNe : bs ≠ stored) :
    IsRefused (load bs) := by
  rw [isRefused_iff]
  intro w hLoad
  rcases exists_store_of_load hLoad with
    ⟨front, rest, hFront, rfl⟩
  rcases hPrefix with ⟨after, rfl⟩
  -- The whole of the bytes gives both values.
  have hWhole := load_of_store h []
  have hShort := load_of_store hFront (rest ++ after)
  rw [List.append_nil, List.append_assoc] at hWhole
  rw [hWhole, Except.ok.injEq] at hShort
  subst hShort
  rw [h, Except.ok.injEq, List.append_assoc,
    List.append_right_eq_self, List.append_eq_nil_iff] at hFront
  apply hNe
  rw [hFront.2, List.append_nil]

/- There are five tags. -/
theorem load_of_unknown
    {tag : UInt8}
    (hUnknown : 4 < tag)
    (rest : List UInt8) :
    load (tag :: rest) = .error (.unknownTag tag) := by
  unfold load
  split <;> grind

/- Strings are too long for a length of four bytes, or stored. -/
theorem isRefused_store_iff :
    IsRefused v.store ↔
      ∃ bytes c, v = text bytes c ∧
        UInt32.size ≤ bytes.length := by
  rw [isRefused_iff]
  cases v with
  | text bytes c =>
      by_cases hLess : bytes.length < UInt32.size
      · have hShort := Nat.not_le.mpr hLess
        simp [store, hLess, hShort]
      · simp [store, hLess, Nat.not_lt.mp hLess]
  | _ => simp [store]

/-
  The stored form is exact and canonical.  Bytes that do not
  begin with the stored form of a value are refused, among
  them cut forms and unknown tags, and a value is refused
  exactly if it is a string that is too long.
-/
theorem load_canonical
    (v : Value)
    (bs : List UInt8) :
    (load bs = .ok v ↔
      ∃ stored rest, v.store = .ok stored ∧
        bs = stored ++ rest) ∧
    (IsRefused (load bs) ↔
      ∀ (w : Value) stored rest, w.store = .ok stored →
        bs ≠ stored ++ rest) ∧
    (∀ stored, v.store = .ok stored →
      bs <+: stored → bs ≠ stored → IsRefused (load bs)) ∧
    (∀ tag rest, bs = tag :: rest → 4 < tag →
      IsRefused (load bs)) ∧
    (IsRefused v.store ↔
      ∃ bytes c, v = text bytes c ∧
        UInt32.size ≤ bytes.length) := by
  refine ⟨load_eq_ok_iff, ?_, ?_, ?_, isRefused_store_iff⟩
  · rw [isRefused_iff]
    constructor
    · intro hNone w stored rest hStored hBytes
      exact hNone w
        (load_eq_ok_iff.mpr ⟨stored, rest, hStored, hBytes⟩)
    · intro hNone w hLoad
      rcases load_eq_ok_iff.mp hLoad with
        ⟨stored, rest, hStored, hBytes⟩
      exact hNone w stored rest hStored hBytes
  · intro stored hStored hPrefix hNe
    exact isRefused_load_of_isPrefix hStored hPrefix hNe
  · rintro tag rest rfl hUnknown
    exact ⟨_, load_of_unknown hUnknown rest, rfl⟩

/- A string of two bytes under a collation of two bytes. -/
def storedWord : List UInt8 :=
  [2, 0xE7, 0x03, 2, 0, 0, 0, 0x68, 0x69]

/-
  The string is read with a byte after it, and refused with
  its last byte missing.
-/
theorem load_canonical_word :
    (text [0x68, 0x69] ⟨999⟩).store = .ok storedWord ∧
      load (storedWord ++ [0]) =
        .ok (text [0x68, 0x69] ⟨999⟩) ∧
      storedWord.dropLast <+: storedWord ∧
      storedWord.dropLast ≠ storedWord ∧
      IsRefused (load storedWord.dropLast) ∧
      IsRefused (load (9 :: storedWord)) := by
  have hStored :
      (text [0x68, 0x69] ⟨999⟩).store = .ok storedWord := rfl
  have hPrefix : storedWord.dropLast <+: storedWord :=
    List.dropLast_prefix storedWord
  have hNe : storedWord.dropLast ≠ storedWord := by decide
  have hLoad :=
    (load_canonical (text [0x68, 0x69] ⟨999⟩)
      (storedWord ++ [0])).1.mpr
      ⟨storedWord, [0], hStored, rfl⟩
  have hCut :=
    (load_canonical (text [0x68, 0x69] ⟨999⟩)
      storedWord.dropLast).2.2.1 storedWord hStored hPrefix hNe
  have hUnknown :=
    (load_canonical null (9 :: storedWord)).2.2.2.1 9
      storedWord rfl (by decide)
  exact ⟨hStored, hLoad, hPrefix, hNe, hCut, hUnknown⟩

end Value

end PartitionPruning
