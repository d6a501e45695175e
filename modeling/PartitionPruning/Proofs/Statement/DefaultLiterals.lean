import PartitionPruning.Proofs.Statement.DefaultValues

/-
  Literals as default texts.

  A decimal literal is read as an integer of 64 bits if it
  is one, and else as its own text.  A negative numeral in
  parentheses is read as the numeral without them, and a
  quoted string as what stands between the quotes.

  Key definitions include:
    * `Decimal`
    * `Decimal.IsInt64`
    * `DefaultText.Denotes`

  Main declarations:
    * `Decimal.int64?_signed_eq_some_iff`
    * `Decimal.isNumeral_signed`
    * `Statement.textDefault_signed`
    * `Statement.textDefault_enclosed`
    * `Statement.defaultValue_of_denotes`
-/

namespace PartitionPruning

open CharClass (isDigit)
open DefaultText (isDigitByte isNumeral numeral unsigned)

------------------------------------------------------------
-- Decimal Literals
------------------------------------------------------------

/- The sign of a literal, if it has one. -/
inductive Sign where
  | none
  | plus
  | minus

namespace Sign

def chars : Sign → List Char
  | .none => []
  | .plus => ['+']
  | .minus => ['-']

/- A number with the sign. -/
def apply : Sign → Nat → Int
  | .none, n => n
  | .plus, n => n
  | .minus, n => -(n : Int)

end Sign

/-
  A decimal literal without a sign: digits, and a point with
  digits after it or none.  There is a digit before the
  point or after it.
-/
structure Decimal where
  whole : List Char
  fraction? : Option (List Char)
  all_whole : whole.all isDigit = true
  all_fraction : (fraction?.getD []).all isDigit = true
  some_digit : whole ≠ [] ∨ fraction?.getD [] ≠ []

namespace Decimal

variable {d : Decimal}
variable {sign : Sign}
variable {v : Int64}

def chars
    (d : Decimal) : List Char :=
  d.whole ++ (d.fraction?.map ('.' :: ·)).getD []

/- The literal with a sign before it. -/
def signed
    (sign : Sign)
    (d : Decimal) : List Char :=
  sign.chars ++ d.chars

/- The literal in parentheses, with a minus before them. -/
def enclosed
    (d : Decimal) : List Char :=
  '-' :: '(' :: (d.chars ++ [')'])

/- With the sign the literal is an integer of 64 bits. -/
def IsInt64
    (sign : Sign)
    (d : Decimal)
    (v : Int64) : Prop :=
  d.fraction? = none ∧
    v.toInt = sign.apply (Numeral.value d.whole)

/- A number in decimal. -/
def ofNat
    (n : Nat) : Decimal where
  whole := Numeral.digits n
  fraction? := none
  all_whole :=
    (Numeral.natural?_eq_some_iff.mp
      (Numeral.natural?_digits n)).2.1
  all_fraction := rfl
  some_digit :=
    Or.inl
      (Numeral.natural?_eq_some_iff.mp
        (Numeral.natural?_digits n)).1

theorem chars_ofNat
    (n : Nat) :
    (ofNat n).chars = Numeral.digits n :=
  List.append_nil _

/- The decimal of a number denotes the number. -/
theorem isInt64_ofNat
    {n : Nat}
    (h : v.toInt = sign.apply n) :
    IsInt64 sign (ofNat n) v := by
  have hValue : Numeral.value (Numeral.digits n) = n :=
    (Numeral.natural?_eq_some_iff.mp
      (Numeral.natural?_digits n)).2.2
  refine ⟨rfl, ?_⟩
  rw [ofNat, hValue]
  exact h

/- The text of an integer is a literal. -/
theorem exists_signed_ofInt
    (v : Int64) :
    ∃ sign,
      Numeral.ofInt v.toInt =
          signed sign (ofNat v.toInt.natAbs) ∧
        IsInt64 sign (ofNat v.toInt.natAbs) v := by
  by_cases hNegative : v.toInt < 0
  · refine ⟨.minus, ?_, isInt64_ofNat ?_⟩
    · rw [Numeral.ofInt, if_pos hNegative, signed, chars_ofNat]
      rfl
    · rw [Sign.apply]
      omega
  · refine ⟨.none, ?_, isInt64_ofNat ?_⟩
    · rw [Numeral.ofInt, if_neg hNegative, signed, chars_ofNat]
      rfl
    · rw [Sign.apply]
      omega

------------------------------------------------------------
-- Literals As Numbers
------------------------------------------------------------

/- A literal has digits, and a point at most. -/
theorem mem_chars
    {c : Char}
    (h : c ∈ d.chars) :
    c = '.' ∨ isDigit c = true := by
  have hWhole := List.all_eq_true.mp d.all_whole
  have hFraction := List.all_eq_true.mp d.all_fraction
  rw [chars, List.mem_append] at h
  rcases h with h | h
  · exact Or.inr (hWhole c h)
  · cases hPoint : d.fraction? with
    | none =>
        rw [hPoint] at h
        cases h
    | some ds =>
        rw [hPoint] at h hFraction
        rcases List.mem_cons.mp h with hEq | hMember
        · exact Or.inl hEq
        · exact Or.inr (hFraction c hMember)

/- A literal has a digit at least. -/
theorem chars_ne_nil :
    d.chars ≠ [] := by
  intro hEmpty
  rcases List.append_eq_nil_iff.mp hEmpty with
    ⟨hWhole, hRest⟩
  rcases d.some_digit with hSome | hSome
  · exact hSome hWhole
  · cases hPoint : d.fraction? with
    | none =>
        rw [hPoint] at hSome
        exact hSome rfl
    | some ds =>
        rw [hPoint] at hRest
        cases hRest

/- A literal with a point in it is no numeral of digits. -/
theorem natural?_chars_eq_some_iff
    {n : Nat} :
    Numeral.natural? d.chars = some n ↔
      d.fraction? = none ∧ n = Numeral.value d.whole := by
  rw [Numeral.natural?_eq_some_iff]
  constructor
  · rintro ⟨_, hDigits, rfl⟩
    have hNone : d.fraction? = none := by
      cases hPoint : d.fraction? with
      | none => rfl
      | some ds =>
          have hMember : '.' ∈ d.chars := by
            simp [chars, hPoint]
          cases List.all_eq_true.mp hDigits '.' hMember
    refine ⟨hNone, ?_⟩
    simp [chars, hNone]
  · rintro ⟨hNone, rfl⟩
    have hChars : d.chars = d.whole := by
      simp [chars, hNone]
    rw [hChars]
    exact ⟨hChars ▸ chars_ne_nil, d.all_whole, rfl⟩

/- The sign of a literal is read before its digits. -/
theorem integer?_signed
    (sign : Sign)
    (d : Decimal) :
    Numeral.integer? (signed sign d) =
      (Numeral.natural? d.chars).map sign.apply := by
  cases sign with
  | none =>
      apply Numeral.integer?_unsigned
      intro c hFirst
      have hMember : c ∈ d.chars :=
        List.mem_of_mem_head? hFirst
      constructor <;> rintro rfl <;>
        exact absurd (mem_chars hMember) (by decide)
  | plus => exact Numeral.integer?_plus d.chars
  | minus => exact Numeral.integer?_minus d.chars

/-
  A literal is read as an integer exactly if it is one: it
  has no point, and it fits into 64 bits.
-/
theorem int64?_signed_eq_some_iff :
    Numeral.int64? (signed sign d) = some v ↔
      IsInt64 sign d v := by
  simp only [Numeral.int64?, integer?_signed,
    Option.bind_eq_some_iff, Option.map_eq_some_iff,
    natural?_chars_eq_some_iff, Integer.narrow?_eq_some_iff]
  constructor
  · rintro ⟨_, ⟨n, ⟨hNone, rfl⟩, rfl⟩, hValue⟩
    exact ⟨hNone, hValue⟩
  · rintro ⟨hNone, hValue⟩
    exact ⟨_, ⟨_, ⟨hNone, rfl⟩, rfl⟩, hValue⟩

------------------------------------------------------------
-- Literals As Bytes
------------------------------------------------------------

theorem mem_encode_chars
    {b : UInt8}
    (h : b ∈ Utf8.encode d.chars) :
    b = 0x2E ∨ isDigitByte b = true := by
  rcases List.mem_flatMap.mp h with ⟨c, hChar, hByte⟩
  rcases mem_chars hChar with rfl | hDigit
  · exact Or.inl (List.mem_singleton.mp hByte)
  · have hAll : [c].all isDigit = true := by
      rw [List.all_cons, hDigit]
      rfl
    have hMember : b ∈ Utf8.encode [c] :=
      List.mem_flatMap.mpr
        ⟨c, List.mem_singleton_self c, hByte⟩
    exact Or.inr (DefaultText.isDigitByte_of_mem hAll hMember)

/- A sign is taken off at the front, if there is one. -/
theorem unsigned_encode_signed
    (sign : Sign)
    (d : Decimal) :
    unsigned (Utf8.encode (signed sign d)) =
      Utf8.encode d.chars := by
  cases sign with
  | none =>
      exact DefaultText.unsigned_eq_self
        fun _ hMember => mem_encode_chars hMember
  | plus => rfl
  | minus => rfl

/- A literal with its sign looks like a number. -/
theorem isNumeral_signed
    (sign : Sign)
    (d : Decimal) :
    isNumeral (Utf8.encode (signed sign d)) = true := by
  have hBytes
      {ds : List Char}
      (hDigits : ds.all isDigit = true)
      (b : UInt8)
      (hMember : b ∈ Utf8.encode ds) :
      isDigitByte b = true :=
    DefaultText.isDigitByte_of_mem hDigits hMember
  have hText :
      unsigned (Utf8.encode (signed sign d)) =
        Utf8.encode d.whole ++
          ((d.fraction?.map Utf8.encode).map
            (0x2E :: ·)).getD [] := by
    rw [unsigned_encode_signed, chars, Utf8.encode_append]
    cases d.fraction? <;> rfl
  have hFraction :
      (d.fraction?.map Utf8.encode).getD [] =
        Utf8.encode (d.fraction?.getD []) := by
    cases d.fraction? <;> rfl
  apply DefaultText.isNumeral_of_unsigned _ hText
  · exact hBytes d.all_whole
  · rw [hFraction]
    exact hBytes d.all_fraction
  · rw [hFraction]
    exact d.some_digit.imp DefaultText.encode_ne_nil
      DefaultText.encode_ne_nil

/- A parenthesis is not part of a numeral. -/
theorem not_isNumeral_enclosed
    (d : Decimal) :
    ¬ isNumeral (Utf8.encode d.enclosed) = true := by
  intro hNumeral
  have hMember :
      0x28 ∈ unsigned (Utf8.encode d.enclosed) :=
    List.mem_cons_self
  exact absurd
    (DefaultText.mem_of_isNumeral hNumeral hMember)
    (by decide)

/- A literal that is an integer is read as the integer. -/
theorem numeral_of_isInt64
    (c : Collation)
    (h : IsInt64 sign d v) :
    numeral c (Utf8.encode (signed sign d)) = .int v :=
  DefaultText.numeral_eq_int_iff.mpr
    ⟨_, rfl, int64?_signed_eq_some_iff.mpr h⟩

/- Any other literal is read as text. -/
theorem numeral_of_not_isInt64
    (c : Collation)
    (h : ∀ v, ¬ IsInt64 sign d v) :
    numeral c (Utf8.encode (signed sign d)) =
      .text (Utf8.encode (signed sign d)) c := by
  unfold numeral
  split
  · next v hSome =>
      rw [Utf8.decode?_encode, Option.bind_some] at hSome
      exact absurd (int64?_signed_eq_some_iff.mp hSome) (h v)
  · rfl

end Decimal

------------------------------------------------------------
-- Literals As Defaults
------------------------------------------------------------

/-
  What a default text denotes if it is a literal.  Strings
  have the collation given.
-/
inductive DefaultText.Denotes
    (c : Collation) : List UInt8 → Value → Prop
  | integer
      (v : Int64) :
      Denotes c (Utf8.encode (Numeral.ofInt v.toInt)) (.int v)
  | positive
      (v : Int64)
      (h : 0 ≤ v.toInt) :
      Denotes c
        (Utf8.encode ('+' :: Numeral.ofInt v.toInt))
        (.int v)
  | negative
      (v : Int64)
      (h : v.toInt < 0) :
      Denotes c
        (Utf8.encode
          ('-' :: '(' ::
            (Numeral.digits v.toInt.natAbs ++ [')'])))
        (.int v)
  | decimal
      (sign : Sign)
      (d : Decimal)
      (h : ∀ v, ¬ d.IsInt64 sign v) :
      Denotes c (Utf8.encode (d.signed sign))
        (.text (Utf8.encode (d.signed sign)) c)
  | enclosed
      (d : Decimal)
      (h : ∀ v, ¬ d.IsInt64 .minus v) :
      Denotes c (Utf8.encode d.enclosed)
        (.text (0x2D :: Utf8.encode d.chars) c)
  | string
      (bytes : List UInt8)
      (h : 0x27 ∉ bytes) :
      Denotes c (0x27 :: (bytes ++ [0x27])) (.text bytes c)

namespace Statement

open DefaultText (Denotes)

variable {s : Statement}
variable {ev : Evaluator}

/- A literal is no text to be read as an expression. -/
theorem textDefault_signed
    (s : Statement)
    (ev : Evaluator)
    (sign : Sign)
    (d : Decimal) :
    s.textDefault ev (Utf8.encode (d.signed sign)) =
      .ok (numeral s.config.collation
        (Utf8.encode (d.signed sign))) :=
  textDefault_numeral (d.isNumeral_signed sign)

/- Parentheses are taken off, and the minus stays. -/
theorem textDefault_enclosed
    (s : Statement)
    (ev : Evaluator)
    (d : Decimal) :
    s.textDefault ev (Utf8.encode d.enclosed) =
      .ok (numeral s.config.collation
        (Utf8.encode (d.signed .minus))) := by
  have hText :
      Utf8.encode d.enclosed =
        0x2D :: 0x28 :: (Utf8.encode d.chars ++ [0x29]) := by
    rw [Decimal.enclosed, Utf8.encode_cons, Utf8.encode_cons,
      Utf8.encode_append]
    rfl
  have hNumeral := d.not_isNumeral_enclosed
  have hPos := DefaultText.encode_length_pos d.chars_ne_nil
  have hLength :
      3 ≤ (0x28 :: (Utf8.encode d.chars ++ [0x29])).length := by
    rw [List.length_cons, List.length_append,
      List.length_singleton]
    omega
  rw [hText] at hNumeral ⊢
  rw [textDefault, if_neg (by decide), if_neg hNumeral,
    if_pos ⟨rfl, hLength⟩, List.drop_succ_cons,
    List.drop_zero, List.dropLast_concat]
  rfl

/- A text between quotes is what stands between them. -/
theorem textDefault_string
    (s : Statement)
    (ev : Evaluator)
    (bytes : List UInt8) :
    s.textDefault ev (0x27 :: (bytes ++ [0x27])) =
      .ok (.text bytes s.config.collation) := by
  rw [textDefault, if_pos rfl, List.dropLast_concat]

/- A stored literal is read as what it denotes. -/
theorem defaultValue_of_denotes
    {c : Collation}
    {text stored : List UInt8}
    {v : Value}
    (hDialect : s.schema.dialect = .oracle)
    (hStored : (Value.text text c).store = .ok stored)
    (hDenotes : Denotes s.session.collation text v) :
    s.defaultValue ev stored = .ok v := by
  rw [defaultValue_eq_textDefault hDialect hStored]
  cases hDenotes with
  | integer v =>
      rcases Decimal.exists_signed_ofInt v with
        ⟨sign, hText, hInt⟩
      rw [hText, textDefault_signed,
        Decimal.numeral_of_isInt64 _ hInt]
      rfl
  | positive v hSign =>
      have hInt :
          (Decimal.ofNat v.toInt.natAbs).IsInt64 .plus v :=
        Decimal.isInt64_ofNat (Int.natAbs_of_nonneg hSign).symm
      have hText :
          '+' :: Numeral.ofInt v.toInt =
            (Decimal.ofNat v.toInt.natAbs).signed .plus := by
        rw [Numeral.ofInt, if_neg (by omega), Decimal.signed,
          Decimal.chars_ofNat]
        rfl
      rw [hText, textDefault_signed,
        Decimal.numeral_of_isInt64 _ hInt]
      rfl
  | negative v hSign =>
      have hInt :
          (Decimal.ofNat v.toInt.natAbs).IsInt64 .minus v :=
        Decimal.isInt64_ofNat (by rw [Sign.apply]; omega)
      have hEnclosed :=
        s.textDefault_enclosed ev
          (Decimal.ofNat v.toInt.natAbs)
      rw [Decimal.enclosed, Decimal.chars_ofNat] at hEnclosed
      rw [hEnclosed, Decimal.numeral_of_isInt64 _ hInt]
      rfl
  | decimal sign d hOther =>
      rw [textDefault_signed,
        Decimal.numeral_of_not_isInt64 _ hOther]
      rfl
  | enclosed d hOther =>
      rw [textDefault_enclosed,
        Decimal.numeral_of_not_isInt64 _ hOther]
      rfl
  | string bytes =>
      rw [textDefault_string]
      rfl

/- The least integer, which has no positive counterpart. -/
def leastText : List UInt8 :=
  [0x2D, 0x28, 0x39, 0x32, 0x32, 0x33, 0x33, 0x37, 0x32,
    0x30, 0x33, 0x36, 0x38, 0x35, 0x34, 0x37, 0x37, 0x35,
    0x38, 0x30, 0x38, 0x29]

theorem defaultValue_leastText :
    textDefaults.schema.dialect = .oracle ∧
      (Value.text leastText ⟨45⟩).store =
        .ok ([2, 45, 0, 22, 0, 0, 0] ++ leastText) ∧
      Denotes textDefaults.session.collation leastText
        (.int Int64.minValue) ∧
      textDefaults.defaultValue .builtin
          ([2, 45, 0, 22, 0, 0, 0] ++ leastText) =
        .ok (.int Int64.minValue) :=
  have hStored :
      (Value.text leastText ⟨45⟩).store =
        .ok ([2, 45, 0, 22, 0, 0, 0] ++ leastText) := rfl
  have hDenotes :
      Denotes textDefaults.session.collation leastText
        (.int Int64.minValue) :=
    Denotes.negative Int64.minValue (by decide)
  ⟨rfl, hStored, hDenotes,
    defaultValue_of_denotes rfl hStored hDenotes⟩

end Statement

end PartitionPruning
