/-
  UTF-8 text held in byte strings.

  `Utf8.head` reads one character off the front of a byte
  string or names the shortest stretch at the front that no
  text can start with.  Reading a whole text, finding the
  first fault and reading with replacement characters are
  all repetitions of `Utf8.head`.

  Key definitions include:
    * `Utf8.encode`
    * `Utf8.bytes`
    * `Utf8.Head`
    * `Utf8.head`
    * `Utf8.Fault`
    * `Utf8.decode`
    * `Utf8.decode?`
    * `Utf8.lossy`
-/

namespace PartitionPruning

namespace Utf8

------------------------------------------------------------
-- Writing
------------------------------------------------------------

/- The bytes of a text given as characters. -/
def encode
    (cs : List Char) : List UInt8 :=
  cs.flatMap String.utf8EncodeChar

/- The bytes of a string. -/
def bytes
    (s : String) : List UInt8 :=
  encode s.toList

@[simp]
theorem encode_nil :
    encode [] = [] :=
  rfl

/- Characters are encoded one after another. -/
@[simp]
theorem encode_cons
    (c : Char)
    (cs : List Char) :
    encode (c :: cs) =
      String.utf8EncodeChar c ++ encode cs :=
  rfl

------------------------------------------------------------
-- Reading One Character
------------------------------------------------------------

/-
  What stands at the front of a nonempty byte string: a
  character, a stretch of `width` bytes that can not be part
  of any text, or the start of a character that the end of
  the bytes cuts off.
-/
inductive Head where
  | char (c : Char) (rest : List UInt8)
  | malformed (width : Nat) (rest : List UInt8)
  | unfinished

/-
  A first byte of a character of several bytes: the bits it
  contributes, how many bytes follow it, and the values that
  the next byte may take.  The narrower bounds keep out
  overlong forms, surrogates and values past U+10FFFF.
-/
structure Lead where
  bits : Nat
  following : Nat
  low : UInt8
  high : UInt8

/- The lead read off a first byte, if it is one. -/
def Lead.ofByte?
    (b : UInt8) : Option Lead :=
  if b < 0xC2 then none
  else if b ≤ 0xDF then
    some ⟨b.toNat - 0xC0, 1, 0x80, 0xBF⟩
  else if b = 0xE0 then some ⟨0, 2, 0xA0, 0xBF⟩
  else if b = 0xED then some ⟨0xD, 2, 0x80, 0x9F⟩
  else if b ≤ 0xEF then
    some ⟨b.toNat - 0xE0, 2, 0x80, 0xBF⟩
  else if b = 0xF0 then some ⟨0, 3, 0x90, 0xBF⟩
  else if b ≤ 0xF3 then
    some ⟨b.toNat - 0xF0, 3, 0x80, 0xBF⟩
  else if b = 0xF4 then some ⟨4, 3, 0x80, 0x8F⟩
  else none

/-
  Read the bytes that follow a lead.  `taken` bytes have
  been read, `bits` is the value so far, and the next byte
  must lie between `low` and `high`.
-/
def continued
    (taken bits : Nat)
    (low high : UInt8) : Nat → List UInt8 → Head
  | 0, rest => .char (Char.ofNat bits) rest
  | _ + 1, [] => .unfinished
  | following + 1, b :: rest =>
      if low ≤ b ∧ b ≤ high then
        continued (taken + 1)
          (bits * 64 + (b.toNat - 0x80))
          0x80 0xBF following rest
      else .malformed taken (b :: rest)

/- Read the front of the byte string `b :: rest`. -/
def head
    (b : UInt8)
    (rest : List UInt8) : Head :=
  if b < 0x80 then .char (Char.ofNat b.toNat) rest
  else
    match Lead.ofByte? b with
    | none => .malformed 1 rest
    | some lead =>
        continued 1 lead.bits lead.low lead.high
          lead.following rest

/- Bytes left over by a head. -/
def Head.rest : Head → List UInt8
  | .char _ rest => rest
  | .malformed _ rest => rest
  | .unfinished => []

/- What follows a character is no longer than the text. -/
theorem continued_rest_length_le
    (following : Nat)
    (bs : List UInt8) :
    ∀ (taken bits : Nat) (low high : UInt8),
      (continued taken bits low high following bs).rest.length ≤
        bs.length := by
  induction following generalizing bs with
  | zero =>
      intro taken bits low high
      simp [continued, Head.rest]
  | succ n ih =>
      intro taken bits low high
      cases bs with
      | nil => simp [continued, Head.rest]
      | cons b rest =>
          simp only [continued]
          split
          · have h :=
              ih rest (taken + 1)
                (bits * 64 + (b.toNat - 0x80)) 0x80 0xBF
            simp only [List.length_cons]
            omega
          · simp [Head.rest]

/- A head takes at least one byte off the front. -/
theorem head_rest_length_lt
    (b : UInt8)
    (rest : List UInt8) :
    (head b rest).rest.length < (b :: rest).length := by
  unfold head
  split
  · simp [Head.rest]
  · split
    · simp [Head.rest]
    · next lead _ =>
        have h :=
          continued_rest_length_le lead.following rest
            1 lead.bits lead.low lead.high
        simp only [List.length_cons]
        omega

------------------------------------------------------------
-- Reading A Text
------------------------------------------------------------

/-
  The first place at which bytes stop being text: `index`
  bytes before it are text.  `width` is the length of the
  stretch that can not be text, or `none` when the bytes end
  inside a character.
-/
structure Fault where
  index : Nat
  width : Option Nat
deriving DecidableEq, Repr, Inhabited

/- The wording of a fault. -/
def Fault.message
    (f : Fault) : String :=
  match f.width with
  | some n =>
      s!"invalid utf-8 sequence of {n} bytes from index {f.index}"
  | none =>
      s!"incomplete utf-8 byte sequence from index {f.index}"

/- Read bytes as text, `index` bytes of it being read before. -/
def decodeFrom
    (index : Nat) :
    List UInt8 → Except Fault (List Char)
  | [] => .ok []
  | b :: rest =>
      match _h : head b rest with
      | .char c rest' => do
          let cs ←
            decodeFrom (index + c.utf8Size) rest'
          .ok (c :: cs)
      | .malformed width _ => .error ⟨index, some width⟩
      | .unfinished => .error ⟨index, none⟩
termination_by bs => bs.length
decreasing_by
  have hlt := head_rest_length_lt b rest
  simpa [_h, Head.rest] using hlt

/- Read bytes as text, or say where they stop being text. -/
def decode
    (bs : List UInt8) : Except Fault (List Char) :=
  decodeFrom 0 bs

/- The text that bytes hold, if they hold text. -/
def decode?
    (bs : List UInt8) : Option (List Char) :=
  match decode bs with
  | .ok cs => some cs
  | .error _ => none

/- The character that stands for bytes that are not text. -/
def replacement : Char :=
  Char.ofNat 0xFFFD

/-
  Read bytes as text, with one replacement character for
  each stretch that is not text.
-/
def lossyChars :
    List UInt8 → List Char
  | [] => []
  | b :: rest =>
      match _h : head b rest with
      | .char c rest' => c :: lossyChars rest'
      | .malformed _ rest' => replacement :: lossyChars rest'
      | .unfinished => [replacement]
termination_by bs => bs.length
decreasing_by
  all_goals
    have hlt := head_rest_length_lt b rest
    simpa [_h, Head.rest] using hlt

/- Bytes as text for reading by people. -/
def lossy
    (bs : List UInt8) : String :=
  String.ofList (lossyChars bs)

end Utf8

end PartitionPruning
