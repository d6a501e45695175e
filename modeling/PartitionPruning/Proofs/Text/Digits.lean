import Mathlib.Algebra.Group.Nat.Defs
import PartitionPruning.Proofs.Text.CharClass
import PartitionPruning.Proofs.Text.Utf8
import PartitionPruning.Text.Numeral

/-
  Decimal digits as characters, as bytes and as numbers.

  Main declarations:
    * `Utf8.encode_digits`
    * `Numeral.value_cons`
    * `Numeral.value_append_singleton`
    * `Numeral.int64?_minus_eq_some_iff`
    * `Numeral.int64?_digit_eq_some_iff`
    * `Numeral.natural?_digits`
    * `Numeral.int64?_minus_dropLast_iff`
    * `Numeral.int64?_minus_tail_iff`
-/

namespace PartitionPruning

open CharClass (isBlank isDigit)

------------------------------------------------------------
-- Digits As Characters And Bytes
------------------------------------------------------------

namespace Utf8

/- The byte of an ASCII character. -/
def asciiByte
    (c : Char) : UInt8 :=
  UInt8.ofNat c.toNat

theorem toNat_asciiByte
    {c : Char}
    (h : c.toNat < 0x80) :
    (asciiByte c).toNat = c.toNat := by
  unfold asciiByte
  rw [UInt8.toNat_ofNat']
  omega

/- An ASCII character is one byte. -/
theorem encodeChar_ascii
    {c : Char}
    (h : c.toNat < 0x80) :
    String.utf8EncodeChar c = [asciiByte c] := by
  have hByte := toNat_asciiByte h
  exact encodeChar_one (by omega) hByte.symm

/- Texts are encoded one after another. -/
theorem encode_append
    (cs ds : List Char) :
    encode (cs ++ ds) = encode cs ++ encode ds := by
  simp [encode]

/- No two texts have the same bytes. -/
theorem encode_injective
    {cs ds : List Char}
    (h : encode cs = encode ds) :
    cs = ds := by
  have hDecoded := congrArg decode? h
  rw [decode?_encode, decode?_encode] at hDecoded
  exact Option.some.inj hDecoded

/- An ASCII byte at the front is the first character. -/
theorem eq_cons_of_encode
    {cs : List Char}
    {c : Char}
    {bs : List UInt8}
    (hSize : c.toNat < 0x80)
    (h : encode cs = asciiByte c :: bs) :
    ∃ ds, cs = c :: ds ∧ encode ds = bs := by
  cases cs with
  | nil => cases h
  | cons d ds =>
      have hByte := toNat_asciiByte hSize
      have hMember : asciiByte c ∈ String.utf8EncodeChar d := by
        cases hBytes : String.utf8EncodeChar d with
        | nil =>
            have hLength := String.length_utf8EncodeChar d
            have hPos := d.utf8Size_pos
            rw [hBytes, List.length_nil] at hLength
            omega
        | cons b rest =>
            rw [encode_cons, hBytes, List.cons_append] at h
            cases h
            exact List.mem_cons_self
      rcases eq_of_mem_encodeChar hMember (by omega) with
        ⟨hBytes, hNumber⟩
      rw [encode_cons, hBytes, List.singleton_append,
        List.cons.injEq] at h
      have hSame : d = c :=
        Char.toNat_inj.mp (hNumber.trans hByte)
      exact ⟨ds, by rw [hSame], h.2⟩

/- Digits have one byte each. -/
theorem encode_digits
    {ds : List Char}
    (h : ds.all isDigit = true) :
    encode ds = ds.map asciiByte := by
  induction ds with
  | nil => rfl
  | cons d ds ih =>
      rw [List.all_cons, Bool.and_eq_true] at h
      have hRange := CharClass.isDigit_iff.mp h.1
      rw [encode_cons, encodeChar_ascii (by omega), ih h.2]
      rfl

/- There are as many bytes as digits. -/
theorem length_encode_digits
    {ds : List Char}
    (h : ds.all isDigit = true) :
    (encode ds).length = ds.length := by
  rw [encode_digits h, List.length_map]

/- Taking off the first digit takes off the first byte. -/
theorem encode_tail_digits
    {ds : List Char}
    (h : ds.all isDigit = true) :
    encode ds.tail = (encode ds).tail := by
  have hTail : ds.tail.all isDigit = true := by
    rw [List.all_eq_true] at h ⊢
    intro d hMember
    exact h d (List.mem_of_mem_tail hMember)
  rw [encode_digits h, encode_digits hTail, List.map_tail]

/- Taking off the last digit takes off the last byte. -/
theorem encode_dropLast_digits
    {ds : List Char}
    (h : ds.all isDigit = true) :
    encode ds.dropLast = (encode ds).dropLast := by
  have hFront : ds.dropLast.all isDigit = true := by
    rw [List.all_eq_true] at h ⊢
    intro d hMember
    exact h d (List.dropLast_subset _ hMember)
  rw [encode_digits h, encode_digits hFront,
    List.map_dropLast]

end Utf8

------------------------------------------------------------
-- Digits As Numbers
------------------------------------------------------------

namespace Numeral

/- The number of a digit. -/
def digitValue
    (c : Char) : Nat :=
  c.toNat - 0x30

/- The last digit counts once, and all before it tenfold. -/
theorem value_append_singleton
    (cs : List Char)
    (c : Char) :
    value (cs ++ [c]) = 10 * value cs + digitValue c := by
  simp [value, digitValue]

/- Digits that are read shift the number before them. -/
theorem foldl_value
    (n : Nat)
    (cs : List Char) :
    cs.foldl (fun n c => 10 * n + (c.toNat - 0x30)) n =
      n * 10 ^ cs.length + value cs := by
  induction cs generalizing n with
  | nil => simp [value]
  | cons c cs ih =>
      have hShift :
          10 * n * 10 ^ cs.length =
            n * 10 ^ (cs.length + 1) := by
        rw [Nat.pow_succ, Nat.mul_comm 10 n, Nat.mul_assoc,
          Nat.mul_comm 10]
      rw [value, List.foldl_cons, List.foldl_cons, ih, ih,
        List.length_cons, Nat.add_mul, hShift, Nat.mul_zero,
        Nat.zero_add, Nat.add_assoc]

/- The first digit counts by the number of those after it. -/
theorem value_cons
    (c : Char)
    (cs : List Char) :
    value (c :: cs) =
      digitValue c * 10 ^ cs.length + value cs := by
  rw [value, List.foldl_cons, foldl_value, Nat.mul_zero,
    Nat.zero_add]
  rfl

/- Digits and nothing else, one at least, are a number. -/
theorem natural?_eq_some_iff
    {cs : List Char}
    {n : Nat} :
    natural? cs = some n ↔
      cs ≠ [] ∧ cs.all isDigit = true ∧ value cs = n := by
  unfold natural?
  split
  · next h => simp [h]
  · next h =>
      simp only [reduceCtorEq, false_iff]
      rintro ⟨hNe, hDigits, _⟩
      exact h ⟨hNe, hDigits⟩

/- Digits behind a minus denote the negative number. -/
theorem integer?_minus
    (cs : List Char) :
    integer? ('-' :: cs) =
      (natural? cs).map fun n : Nat => -(n : Int) := by
  cases h : natural? cs <;> simp [integer?, h]

/- A minus before digits makes their number negative. -/
theorem int64?_minus_eq_some_iff
    {ds : List Char}
    {v : Int64} :
    int64? ('-' :: ds) = some v ↔
      ds ≠ [] ∧ ds.all isDigit = true ∧
        v.toInt = -(value ds : Int) := by
  simp only [int64?, integer?_minus, Option.bind_eq_some_iff,
    Option.map_eq_some_iff, natural?_eq_some_iff,
    Integer.narrow?_eq_some_iff]
  constructor
  · rintro ⟨_, ⟨n, ⟨hNe, hDigits, rfl⟩, rfl⟩, hValue⟩
    exact ⟨hNe, hDigits, hValue⟩
  · rintro ⟨hNe, hDigits, hValue⟩
    exact ⟨_, ⟨_, ⟨hNe, hDigits, rfl⟩, rfl⟩, hValue⟩

/- Digits behind a plus denote the number. -/
theorem integer?_plus
    (cs : List Char) :
    integer? ('+' :: cs) =
      (natural? cs).map fun n : Nat => (n : Int) := by
  cases h : natural? cs <;> simp [integer?, h]

/- What starts with no sign has to be digits. -/
theorem integer?_unsigned
    {cs : List Char}
    (h : ∀ c ∈ cs.head?, c ≠ '-' ∧ c ≠ '+') :
    integer? cs =
      (natural? cs).map fun n : Nat => (n : Int) := by
  unfold integer?
  split
  · exact absurd rfl (h '-' rfl).1
  · exact absurd rfl (h '+' rfl).2
  · cases natural? cs <;> rfl

/- Digits by themselves are their number. -/
theorem int64?_digit_eq_some_iff
    {c : Char}
    {cs : List Char}
    {v : Int64}
    (hFirst : isDigit c = true) :
    int64? (c :: cs) = some v ↔
      ∃ n : Nat, natural? (c :: cs) = some n ∧ v.toInt = n := by
  have hUnsigned :
      integer? (c :: cs) =
        (natural? (c :: cs)).map fun n : Nat => (n : Int) := by
    apply integer?_unsigned
    rintro _ ⟨⟩
    constructor <;> rintro rfl <;> cases hFirst
  simp only [int64?, hUnsigned, Option.bind_eq_some_iff,
    Option.map_eq_some_iff, Integer.narrow?_eq_some_iff]
  constructor
  · rintro ⟨_, ⟨n, hNumber, rfl⟩, hValue⟩
    exact ⟨n, hNumber, hValue⟩
  · rintro ⟨n, hNumber, hValue⟩
    exact ⟨n, ⟨n, hNumber, rfl⟩, hValue⟩

/- The digits of a number are read as the number. -/
theorem natural?_digits
    (n : Nat) :
    natural? (digits n) = some n := by
  have hDigits : (digits n).all isDigit = true := by
    rw [List.all_eq_true]
    intro c hMember
    have hDigit :=
      Nat.isDigit_of_mem_toDigits (by decide) (by decide)
        hMember
    have hRange :
        '0'.toNat ≤ c.toNat ∧ c.toNat ≤ '9'.toNat := by
      simpa [Char.isDigit, Char.le_def, UInt32.le_iff_toNat_le]
        using hDigit
    exact CharClass.isDigit_iff.mpr hRange
  have hValue : value (digits n) = n := by
    have hFold :
        value (digits n) =
          Nat.ofDigitChars 10 (Nat.toDigits 10 n) 0 := by
      rw [Nat.ofDigitChars_eq_foldl]
      rfl
    rw [hFold, Nat.ofDigitChars_ten_toDigits]
  exact
    natural?_eq_some_iff.mpr
      ⟨Nat.toDigits_ne_nil, hDigits, hValue⟩

/-
  Leaving out the last of several digits changes no number
  but zero.
-/
theorem int64?_minus_dropLast_iff
    {ds : List Char}
    {v : Int64}
    (h : int64? ('-' :: ds) = some v)
    (hLength : 2 ≤ ds.length) :
    int64? ('-' :: ds.dropLast) = some v ↔ value ds = 0 := by
  rcases int64?_minus_eq_some_iff.mp h with
    ⟨hNe, hDigits, hValue⟩
  rcases List.eq_nil_or_concat ds with rfl | ⟨front, c, rfl⟩
  · exact absurd rfl hNe
  rw [List.concat_eq_append] at *
  rw [List.all_append, Bool.and_eq_true] at hDigits
  have hFront : front ≠ [] := by
    rintro rfl
    rw [List.nil_append, List.length_singleton] at hLength
    omega
  rw [value_append_singleton] at hValue
  rw [List.dropLast_concat, int64?_minus_eq_some_iff,
    value_append_singleton]
  constructor
  · rintro ⟨_, _, hSame⟩
    omega
  · intro hZero
    exact ⟨hFront, hDigits.1, by omega⟩

/- Leaving out the first of several keeps the number if it is 0. -/
theorem int64?_minus_tail_iff
    {ds : List Char}
    {v : Int64}
    (h : int64? ('-' :: ds) = some v)
    (hLength : 2 ≤ ds.length) :
    int64? ('-' :: ds.tail) = some v ↔
      ds.head? = some '0' := by
  rcases int64?_minus_eq_some_iff.mp h with
    ⟨hNe, hDigits, hValue⟩
  cases ds with
  | nil => exact absurd rfl hNe
  | cons c rest =>
      rw [List.all_cons, Bool.and_eq_true] at hDigits
      have hRest : rest ≠ [] := by
        rintro rfl
        rw [List.length_singleton] at hLength
        omega
      have hRange := CharClass.isDigit_iff.mp hDigits.1
      have hPower : 0 < 10 ^ rest.length :=
        Nat.pow_pos (by decide)
      rw [value_cons] at hValue
      rw [List.tail_cons, int64?_minus_eq_some_iff,
        List.head?_cons, Option.some.injEq]
      constructor
      · rintro ⟨_, _, hSame⟩
        have hZero :
            digitValue c * 10 ^ rest.length = 0 := by
          omega
        rcases Nat.mul_eq_zero.mp hZero with hDigit | hNone
        · have hNumber : c.toNat = '0'.toNat := by
            unfold digitValue at hDigit
            have hZeroChar : '0'.toNat = 0x30 := rfl
            omega
          exact Char.toNat_inj.mp hNumber
        · omega
      · rintro rfl
        have hZero : digitValue '0' = 0 := rfl
        rw [hZero, Nat.zero_mul, Nat.zero_add] at hValue
        exact ⟨hRest, hDigits.2, hValue⟩

end Numeral

end PartitionPruning
