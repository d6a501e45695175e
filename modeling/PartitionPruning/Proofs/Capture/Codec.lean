import PartitionPruning.Capture.Codec
import PartitionPruning.Proofs.Steps
import PartitionPruning.Proofs.Text.Utf8

/-
  Codecs that are exact.

  An exact codec reads back what it writes, in front of any
  other bytes, and reads nothing but what it writes.  Codecs
  that are put together from exact ones are exact.

  Writing takes at least one byte, so whatever fits into
  64-bit many bytes has parts that can be counted in eight.

  Key definitions include:
    * `Codec.IsExact`
    * `Reader.Follows`

  Main declarations:
    * `Reader.number_eq_ok_iff`
    * `Reader.choice_tag`
    * `Reader.eq_write_of_choice`
    * `Codec.IsExact.pair`
    * `Codec.IsExact.via`
    * `Codec.IsExact.list`
    * `Codec.isExact_enumeration`
-/

namespace PartitionPruning

------------------------------------------------------------
-- Readers
------------------------------------------------------------

namespace Reader

variable {α β : Type}
variable {bs rest : List UInt8}

/- What is given is given without a look at the bytes. -/
theorem give_eq_ok_iff
    {a b : α} :
    give a bs = .ok (b, rest) ↔ a = b ∧ bs = rest := by
  simp [give]

/-
  Mapping changes what is read, and not where reading
  ends.
-/
theorem map_eq_ok_iff
    {f : α → β}
    {r : Reader α}
    {b : β} :
    r.map f bs = .ok (b, rest) ↔
      ∃ a, r bs = .ok (a, rest) ∧ f a = b := by
  unfold map
  rw [Steps.bind_eq_ok_iff]
  constructor
  · rintro ⟨⟨a, others⟩, hRead, hMap⟩
    cases hMap
    exact ⟨a, hRead, rfl⟩
  · rintro ⟨a, hRead, rfl⟩
    exact ⟨(a, rest), hRead, rfl⟩

theorem map_of_eq_ok
    {r : Reader α}
    {a : α}
    (f : α → β)
    (h : r bs = .ok (a, rest)) :
    r.map f bs = .ok (f a, rest) :=
  map_eq_ok_iff.mpr ⟨a, h, rfl⟩

/- So many bytes are taken off the front, or none. -/
theorem take_eq_ok_iff
    {fault : CaptureFault}
    {n : Nat}
    {front : List UInt8} :
    take fault n bs = .ok (front, rest) ↔
      bs = front ++ rest ∧ front.length = n := by
  rw [← LittleEndian.split?_eq_some_iff]
  unfold take
  cases LittleEndian.split? n bs <;> simp

/- A number is read from its bytes, and from no others. -/
theorem number_eq_ok_iff
    {width n : Nat} :
    number width bs = .ok (n, rest) ↔
      bs = LittleEndian.encode width n ++ rest ∧
        n < LittleEndian.span width := by
  unfold number
  rw [map_eq_ok_iff]
  constructor
  · rintro ⟨front, hTake, rfl⟩
    rcases take_eq_ok_iff.mp hTake with ⟨rfl, rfl⟩
    exact
      ⟨by rw [LittleEndian.encode_value],
        LittleEndian.value_lt front⟩
  · rintro ⟨rfl, hLess⟩
    refine ⟨LittleEndian.encode width n, ?_, ?_⟩
    · exact
        take_eq_ok_iff.mpr
          ⟨rfl, LittleEndian.length_encode width n⟩
    · rw [LittleEndian.value_encode, Nat.mod_eq_of_lt hLess]

/- As many items are read as were written. -/
theorem many_flatMap
    {r : Reader α}
    {write : α → List UInt8}
    {as : List α}
    (h :
      ∀ a ∈ as, ∀ rest, r (write a ++ rest) = .ok (a, rest))
    (rest : List UInt8) :
    r.many as.length (as.flatMap write ++ rest) =
      .ok (as, rest) := by
  induction as with
  | nil => rfl
  | cons a as ih =>
      have hFirst :=
        h a List.mem_cons_self (as.flatMap write ++ rest)
      have hOthers :=
        ih fun b hMember => h b (List.mem_cons_of_mem a hMember)
      rw [List.length_cons, many, List.flatMap_cons,
        List.append_assoc]
      simp only [hFirst, Steps.ok_bind, hOthers]

/- Items that are read have been written one after another. -/
theorem eq_flatMap_of_many
    {r : Reader α}
    {write : α → List UInt8}
    (h :
      ∀ {bs a rest}, r bs = .ok (a, rest) →
        bs = write a ++ rest)
    {n : Nat}
    {as : List α}
    (hMany : r.many n bs = .ok (as, rest)) :
    as.length = n ∧ bs = as.flatMap write ++ rest := by
  induction n generalizing bs as with
  | zero =>
      rcases give_eq_ok_iff.mp hMany with ⟨rfl, rfl⟩
      exact ⟨rfl, rfl⟩
  | succ n ih =>
      rcases Steps.bind_eq_ok_iff.mp hMany with
        ⟨⟨a, others⟩, hFirst, hRest⟩
      rcases Steps.bind_eq_ok_iff.mp hRest with
        ⟨⟨items, left⟩, hOthers, hDone⟩
      cases hDone
      rcases ih hOthers with ⟨rfl, rfl⟩
      refine ⟨rfl, ?_⟩
      rw [h hFirst, List.flatMap_cons, List.append_assoc]

------------------------------------------------------------
-- Choices
------------------------------------------------------------

/-
  What a reader reads is written as the number of an
  alternative and then the bytes that the reader read.
-/
def Follows
    (write : α → List UInt8)
    (n : Nat)
    (r : Reader α) : Prop :=
  ∀ bs a rest, r bs = .ok (a, rest) →
    write a ++ rest = Codec.tag n ++ bs

/- The number of an alternative selects its reader. -/
theorem choice_tag
    {alternatives : List (Reader α)}
    {n : Nat}
    {r : Reader α}
    (hGet : alternatives[n]? = some r)
    (hLess : n < LittleEndian.span 4)
    (body : List UInt8) :
    choice alternatives (Codec.tag n ++ body) = r body := by
  have hNumber :
      number 4 (Codec.tag n ++ body) = .ok (n, body) :=
    number_eq_ok_iff.mpr ⟨rfl, hLess⟩
  simp only [choice, hNumber, Steps.ok_bind, hGet]

/- An alternative without content is read from its number. -/
theorem choice_give
    {alternatives : List (Reader α)}
    {n : Nat}
    {a : α}
    (hGet : alternatives[n]? = some (give a))
    (hLess : n < LittleEndian.span 4)
    (rest : List UInt8) :
    choice alternatives (Codec.tag n ++ rest) =
      .ok (a, rest) :=
  choice_tag hGet hLess rest

/- A choice reads what one of its alternatives reads. -/
theorem eq_write_of_choice
    {write : α → List UInt8}
    {alternatives : List (Reader α)}
    (h :
      ∀ n r, alternatives[n]? = some r → Follows write n r)
    {a : α}
    (hRead : choice alternatives bs = .ok (a, rest)) :
    bs = write a ++ rest := by
  rcases Steps.bind_eq_ok_iff.mp hRead with
    ⟨⟨n, body⟩, hNumber, hBody⟩
  dsimp only at hBody
  split at hBody
  · next r hGet =>
      rw [h n r hGet body a rest hBody,
        (number_eq_ok_iff.mp hNumber).1]
      rfl
  · cases hBody

/- An alternative without content is its number alone. -/
theorem follows_give
    {write : α → List UInt8}
    {n : Nat}
    {a : α}
    (h : write a = Codec.tag n) :
    Follows write n (give a) := by
  intro bs b rest hRead
  rcases give_eq_ok_iff.mp hRead with ⟨rfl, rfl⟩
  rw [h]

end Reader

------------------------------------------------------------
-- Exact Codecs
------------------------------------------------------------

namespace Codec

open LittleEndian (encode span)

variable {α β : Type}

/-
  Values are read back in front of any bytes, as long as
  their own bytes can be counted, and bytes that are read
  are those that the value is written as.
-/
structure IsExact
    (c : Codec α) : Prop where
  write_pos : ∀ a, 0 < (c.write a).length
  read_write :
    ∀ {a}, (c.write a).length < UInt64.size →
      ∀ rest, c.read (c.write a ++ rest) = .ok (a, rest)
  eq_write :
    ∀ {bs a rest}, c.read bs = .ok (a, rest) →
      bs = c.write a ++ rest

theorem span_eight :
    span 8 = UInt64.size := by
  decide

/- The number of an alternative has four bytes. -/
@[simp]
theorem length_tag
    (n : Nat) :
    (tag n).length = 4 :=
  LittleEndian.length_encode 4 n

/- What starts with the number of an alternative is not empty. -/
theorem length_tag_append_pos
    (n : Nat)
    (bs : List UInt8) :
    0 < (tag n ++ bs).length := by
  rw [List.length_append, length_tag]
  omega

/-
  Two parts in a row: the second is read where the first
  ends.
-/
theorem IsExact.pair
    {first : Codec α}
    {second : Codec β}
    (hFirst : first.IsExact)
    (hSecond : second.IsExact) :
    (first.pair second).IsExact where
  write_pos p := by
    have hPos := hFirst.write_pos p.1
    simp only [Codec.pair, List.length_append]
    omega
  read_write {p} hSize rest := by
    simp only [Codec.pair, List.length_append] at hSize
    have hOne :=
      hFirst.read_write (a := p.1) (by omega)
        (second.write p.2 ++ rest)
    have hTwo :=
      hSecond.read_write (a := p.2) (by omega) rest
    simp only [Codec.pair, List.append_assoc, hOne,
      Steps.ok_bind, hTwo]
  eq_write {bs p rest} h := by
    rcases Steps.bind_eq_ok_iff.mp h with
      ⟨⟨a, others⟩, hOne, hRest⟩
    rcases Steps.bind_eq_ok_iff.mp hRest with
      ⟨⟨b, left⟩, hTwo, hDone⟩
    cases hDone
    rw [hFirst.eq_write hOne, hSecond.eq_write hTwo]
    exact (List.append_assoc _ _ _).symm

/-
  A codec goes over to every type in bijection with its
  own.
-/
theorem IsExact.via
    {c : Codec α}
    {forth : β → α}
    {back : α → β}
    (h : c.IsExact)
    (hBack : ∀ b, back (forth b) = b)
    (hForth : ∀ a, forth (back a) = a) :
    (c.via forth back).IsExact where
  write_pos b := h.write_pos (forth b)
  read_write {b} hSize rest := by
    have hRead := h.read_write (a := forth b) hSize rest
    have hMap := Reader.map_of_eq_ok back hRead
    rwa [hBack] at hMap
  eq_write {bs b rest} hRead := by
    rcases Reader.map_eq_ok_iff.mp hRead with ⟨a, hItem, rfl⟩
    rw [h.eq_write hItem]
    simp only [Codec.via, hForth]

/- An alternative that consists of a part. -/
theorem IsExact.follows
    {part : Codec β}
    (h : part.IsExact)
    {write : α → List UInt8}
    {n : Nat}
    {f : β → α}
    (hWrite : ∀ b, write (f b) = tag n ++ part.write b) :
    Reader.Follows write n (part.read.map f) := by
  intro bs a rest hRead
  rcases Reader.map_eq_ok_iff.mp hRead with ⟨b, hPart, rfl⟩
  rw [h.eq_write hPart, hWrite, List.append_assoc]

/- Such an alternative is read back. -/
theorem IsExact.choice_tag
    {part : Codec β}
    (h : part.IsExact)
    {alternatives : List (Reader α)}
    {n : Nat}
    {f : β → α}
    (hGet : alternatives[n]? = some (part.read.map f))
    (hLess : n < span 4)
    {b : β}
    (hSize : (tag n ++ part.write b).length < UInt64.size)
    (rest : List UInt8) :
    Reader.choice alternatives
        (tag n ++ part.write b ++ rest) =
      .ok (f b, rest) := by
  rw [List.length_append] at hSize
  rw [List.append_assoc, Reader.choice_tag hGet hLess]
  exact
    Reader.map_of_eq_ok f (h.read_write (by omega) rest)

------------------------------------------------------------
-- Values Written As Others
------------------------------------------------------------

section Via

variable {γ : Type}

/- A second part that is written as a value of another type. -/
theorem pair_via
    (first : Codec α)
    (second : Codec β)
    (forth : γ → β)
    (back : β → γ) :
    first.pair (second.via forth back) =
      (first.pair second).via (Prod.map id forth)
        (Prod.map id back) := by
  unfold pair via
  congr 1
  funext bs
  dsimp only [Reader.map]
  cases first.read bs with
  | error fault => rfl
  | ok one =>
      simp only [Steps.ok_bind]
      cases second.read one.2 <;> rfl

/- A first part that is written as a value of another type. -/
theorem via_pair
    (first : Codec α)
    (second : Codec β)
    (forth : γ → α)
    (back : α → γ) :
    (first.via forth back).pair second =
      (first.pair second).via (Prod.map forth id)
        (Prod.map back id) := by
  unfold pair via
  congr 1
  funext bs
  dsimp only [Reader.map]
  cases first.read bs with
  | error fault => rfl
  | ok one =>
      simp only [Steps.ok_bind]
      cases second.read one.2 <;> rfl

/- Two changes of type are one. -/
theorem via_via
    (c : Codec α)
    (forth : β → α)
    (back : α → β)
    (further : γ → β)
    (nearer : β → γ) :
    (c.via forth back).via further nearer =
      c.via (forth ∘ further) (nearer ∘ back) := by
  unfold via
  congr 1
  funext bs
  dsimp only [Reader.map]
  cases c.read bs <;> rfl

end Via

------------------------------------------------------------
-- Numbers And Flags
------------------------------------------------------------

/- A byte is written as itself. -/
theorem isExact_byte :
    byte.IsExact where
  write_pos _ := Nat.one_pos
  read_write _ _ := rfl
  eq_write {bs b rest} h := by
    cases bs with
    | nil => cases h
    | cons c others =>
        cases h
        rfl

/- Values that are numbers of as many bytes as they take. -/
theorem isExact_ofNumber
    {width : Nat}
    {toNat : α → Nat}
    {ofNat : Nat → α}
    (hWidth : 0 < width)
    (hLess : ∀ a, toNat a < span width)
    (hBack : ∀ a, ofNat (toNat a) = a)
    (hForth : ∀ n < span width, toNat (ofNat n) = n) :
    IsExact
      ⟨fun a => encode width (toNat a),
        (Reader.number width).map ofNat⟩ where
  write_pos a := by
    rw [LittleEndian.length_encode]
    exact hWidth
  read_write {a} _ rest := by
    have hNumber :
        Reader.number width (encode width (toNat a) ++ rest) =
          .ok (toNat a, rest) :=
      Reader.number_eq_ok_iff.mpr ⟨rfl, hLess a⟩
    have hMap := Reader.map_of_eq_ok ofNat hNumber
    rwa [hBack] at hMap
  eq_write {bs a rest} h := by
    rcases Reader.map_eq_ok_iff.mp h with ⟨n, hNumber, rfl⟩
    rcases Reader.number_eq_ok_iff.mp hNumber with
      ⟨rfl, hCounted⟩
    simp only [hForth n hCounted]

theorem isExact_word16 :
    word16.IsExact :=
  isExact_ofNumber (by decide) UInt16.toNat_lt
    (fun _ => UInt16.ofNat_toNat)
    fun _ hCounted => UInt16.toNat_ofNat_of_lt' hCounted

theorem isExact_word64 :
    word64.IsExact :=
  isExact_ofNumber (by decide)
    (fun n => by rw [span_eight]; exact n.toNat_lt)
    (fun _ => UInt64.ofNat_toNat)
    fun n hCounted => by
      rw [span_eight] at hCounted
      exact UInt64.toNat_ofNat_of_lt' hCounted

theorem isExact_int64 :
    int64.IsExact :=
  isExact_word64.via Int64.toInt64_toUInt64
    UInt64.toUInt64_toInt64

/- Only the bytes zero and one are read as truth values. -/
theorem isExact_bool :
    bool.IsExact where
  write_pos b := by simp [bool]
  read_write {b} _ _ := by cases b <;> rfl
  eq_write {bs b rest} h := by
    rcases Steps.bind_eq_ok_iff.mp h with
      ⟨⟨c, others⟩, hByte, hRest⟩
    rw [isExact_byte.eq_write hByte]
    dsimp only at hRest
    split at hRest
    · next hZero =>
        cases hRest
        rw [hZero]
        rfl
    · split at hRest
      · next hOne =>
          cases hRest
          rw [hOne]
          rfl
      · cases hRest

------------------------------------------------------------
-- Optional Items And Lists
------------------------------------------------------------

/-
  An optional part is a byte that tells whether it is
  there, and then the part.
-/
theorem IsExact.option
    {item : Codec α}
    (h : item.IsExact) :
    (Codec.option item).IsExact where
  write_pos a? := by cases a? <;> simp [Codec.option]
  read_write {a?} hSize rest := by
    cases a? with
    | none => rfl
    | some a =>
        simp only [Codec.option, List.length_cons] at hSize
        exact
          Reader.map_of_eq_ok some
            (h.read_write (a := a) (by omega) rest)
  eq_write {bs a? rest} hRead := by
    rcases Steps.bind_eq_ok_iff.mp hRead with
      ⟨⟨b, others⟩, hByte, hRest⟩
    rw [isExact_byte.eq_write hByte]
    dsimp only at hRest
    split at hRest
    · next hZero =>
        cases hRest
        rw [hZero]
        rfl
    · split at hRest
      · next hOne =>
          rcases Reader.map_eq_ok_iff.mp hRest with
            ⟨a, hItem, rfl⟩
          rw [hOne, h.eq_write hItem]
          rfl
      · cases hRest

/- There are no more items than bytes that they take. -/
theorem length_le_length_flatMap
    {write : α → List UInt8}
    {as : List α}
    (h : ∀ a ∈ as, 0 < (write a).length) :
    as.length ≤ (as.flatMap write).length := by
  induction as with
  | nil => exact Nat.le_refl 0
  | cons a as ih =>
      have hFirst := h a List.mem_cons_self
      have hOthers :=
        ih fun b hMember => h b (List.mem_cons_of_mem a hMember)
      simp only [List.length_cons, List.flatMap_cons,
        List.length_append]
      omega

/- An item takes no more bytes than all of them. -/
theorem length_write_le_length_flatMap
    {write : α → List UInt8}
    {as : List α}
    {a : α}
    (h : a ∈ as) :
    (write a).length ≤ (as.flatMap write).length := by
  rcases List.append_of_mem h with ⟨before, after, rfl⟩
  simp only [List.flatMap_append, List.flatMap_cons,
    List.length_append]
  omega

/- A length of eight bytes, if it can be counted. -/
theorem number_length
    {n : Nat}
    (hSize : n < UInt64.size)
    (rest : List UInt8) :
    Reader.number 8 (encode 8 n ++ rest) = .ok (n, rest) := by
  rw [← span_eight] at hSize
  exact Reader.number_eq_ok_iff.mpr ⟨rfl, hSize⟩

/-
  A list is its length and then its items. It has no more
  items than bytes, so that the length fits into eight.
-/
theorem IsExact.list
    {item : Codec α}
    (h : item.IsExact) :
    (Codec.list item).IsExact where
  write_pos as := by
    simp only [Codec.list, List.length_append,
      LittleEndian.length_encode]
    omega
  read_write {as} hSize rest := by
    simp only [Codec.list, List.length_append,
      LittleEndian.length_encode] at hSize
    have hCount :
        as.length ≤ (as.flatMap item.write).length :=
      length_le_length_flatMap fun a _ => h.write_pos a
    have hItems :
        item.read.many as.length
            (as.flatMap item.write ++ rest) =
          .ok (as, rest) := by
      apply Reader.many_flatMap
      intro a hMember others
      have hItem :
          (item.write a).length ≤
            (as.flatMap item.write).length :=
        length_write_le_length_flatMap hMember
      exact h.read_write (by omega) others
    simp only [Codec.list, List.append_assoc,
      number_length (show as.length < UInt64.size by omega),
      Steps.ok_bind, hItems]
  eq_write {bs as rest} hRead := by
    rcases Steps.bind_eq_ok_iff.mp hRead with
      ⟨⟨n, others⟩, hNumber, hMany⟩
    rcases Reader.eq_flatMap_of_many h.eq_write hMany with
      ⟨rfl, rfl⟩
    rw [(Reader.number_eq_ok_iff.mp hNumber).1]
    exact (List.append_assoc _ _ _).symm

/- A byte string is its length and then its bytes. -/
theorem isExact_byteString :
    byteString.IsExact where
  write_pos bytes := by
    simp only [byteString, List.length_append,
      LittleEndian.length_encode]
    omega
  read_write {bytes} hSize rest := by
    simp only [byteString, List.length_append,
      LittleEndian.length_encode] at hSize
    have hTake :
        Reader.take .cutContent bytes.length (bytes ++ rest) =
          .ok (bytes, rest) :=
      Reader.take_eq_ok_iff.mpr ⟨rfl, rfl⟩
    simp only [byteString, List.append_assoc,
      number_length
        (show bytes.length < UInt64.size by omega),
      Steps.ok_bind, hTake]
  eq_write {bs bytes rest} h := by
    rcases Steps.bind_eq_ok_iff.mp h with
      ⟨⟨n, others⟩, hNumber, hTake⟩
    rcases Reader.take_eq_ok_iff.mp hTake with ⟨rfl, rfl⟩
    rw [(Reader.number_eq_ok_iff.mp hNumber).1]
    exact (List.append_assoc _ _ _).symm

/-
  A string is read back because its bytes are UTF-8, and
  no other bytes are read as a string.
-/
theorem isExact_string :
    string.IsExact where
  write_pos s := isExact_byteString.write_pos (Utf8.bytes s)
  read_write {s} hSize rest := by
    have hBytes :=
      isExact_byteString.read_write (a := Utf8.bytes s) hSize
        rest
    have hText :
        Utf8.decode (Utf8.bytes s) = .ok s.toList :=
      Utf8.decode_encode s.toList
    simp only [string, hBytes, Steps.ok_bind, hText,
      String.ofList_toList]
  eq_write {bs s rest} h := by
    rcases Steps.bind_eq_ok_iff.mp h with
      ⟨⟨bytes, others⟩, hBytes, hText⟩
    dsimp only at hText
    split at hText
    · next cs hDecode =>
        cases hText
        rw [isExact_byteString.eq_write hBytes,
          Utf8.decode_eq_ok_iff.mp hDecode]
        simp [string, Utf8.bytes]
    · cases hText

------------------------------------------------------------
-- Enumerations
------------------------------------------------------------

/-
  A place in a list without repetitions stands for one
  value.
-/
theorem isExact_enumeration
    [DecidableEq α]
    {values : List α}
    (hAll : ∀ a, a ∈ values)
    (hOnce : values.Nodup)
    (hCount : values.length ≤ span 4) :
    (enumeration values).IsExact where
  write_pos a := by simp [enumeration]
  read_write {a} _ rest := by
    have hLess := List.idxOf_lt_length_of_mem (hAll a)
    have hGet :
        (values.map Reader.give)[values.idxOf a]? =
          some (Reader.give a) := by
      rw [List.getElem?_map, List.getElem?_eq_getElem hLess,
        List.getElem_idxOf hLess]
      rfl
    exact Reader.choice_give hGet (by omega) rest
  eq_write {bs a rest} h := by
    apply Reader.eq_write_of_choice _ h
    intro n r hGet
    rw [List.getElem?_map, Option.map_eq_some_iff] at hGet
    rcases hGet with ⟨b, hAt, rfl⟩
    rcases List.getElem?_eq_some_iff.mp hAt with ⟨hLess, rfl⟩
    apply Reader.follows_give
    simp only [enumeration, hOnce.idxOf_getElem]

end Codec

end PartitionPruning
