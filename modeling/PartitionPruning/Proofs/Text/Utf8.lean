import PartitionPruning.Proofs.Steps
import PartitionPruning.Text.Utf8

/-
  UTF-8 read back as it was written, and written as it was
  read.

  Main declarations:
    * `Utf8.head_encodeChar`
    * `Utf8.cons_eq_of_head`
    * `Utf8.decode_encode`
    * `Utf8.decode_eq_ok_iff`
-/

namespace PartitionPruning

namespace Utf8

------------------------------------------------------------
-- Leads
------------------------------------------------------------

namespace Lead

variable {b : UInt8}

theorem ofByte?_two
    (hLow : 0xC2 ≤ b.toNat)
    (hHigh : b.toNat ≤ 0xDF) :
    ofByte? b = some ⟨b.toNat - 0xC0, 1, 0x80, 0xBF⟩ := by
  have hNotLess : ¬ b < 0xC2 := by
    rw [UInt8.lt_iff_toNat_lt]
    exact Nat.not_lt.mpr hLow
  have hLe : b ≤ 0xDF := UInt8.le_iff_toNat_le.mpr hHigh
  rw [ofByte?, if_neg hNotLess, if_pos hLe]

/- Of three bytes, without overlong forms and surrogates. -/
theorem ofByte?_three
    (hLow : 0xE0 ≤ b.toNat)
    (hHigh : b.toNat ≤ 0xEF) :
    ofByte? b =
      some
        ⟨b.toNat - 0xE0, 2,
          if b.toNat = 0xE0 then 0xA0 else 0x80,
          if b.toNat = 0xED then 0x9F else 0xBF⟩ := by
  have hNotLess : ¬ b < 0xC2 := by
    rw [UInt8.lt_iff_toNat_lt]
    have hValue : (0xC2 : UInt8).toNat = 0xC2 := rfl
    omega
  have hNotTwo : ¬ b ≤ 0xDF := by
    rw [UInt8.le_iff_toNat_le]
    have hValue : (0xDF : UInt8).toNat = 0xDF := rfl
    omega
  have hLe : b ≤ 0xEF := UInt8.le_iff_toNat_le.mpr hHigh
  rw [ofByte?, if_neg hNotLess, if_neg hNotTwo]
  by_cases hFirst : b.toNat = 0xE0
  · have hEq : b = 0xE0 := UInt8.toNat_inj.mp hFirst
    subst hEq
    rfl
  · have hNotFirst : ¬ b = 0xE0 := fun hEq =>
      hFirst (congrArg UInt8.toNat hEq)
    rw [if_neg hNotFirst, if_neg hFirst]
    by_cases hSurrogate : b.toNat = 0xED
    · have hEq : b = 0xED := UInt8.toNat_inj.mp hSurrogate
      subst hEq
      rfl
    · have hNotSurrogate : ¬ b = 0xED := fun hEq =>
        hSurrogate (congrArg UInt8.toNat hEq)
      rw [if_neg hNotSurrogate, if_neg hSurrogate, if_pos hLe]

/- Of four bytes, without overlong forms and past the end. -/
theorem ofByte?_four
    (hLow : 0xF0 ≤ b.toNat)
    (hHigh : b.toNat ≤ 0xF4) :
    ofByte? b =
      some
        ⟨b.toNat - 0xF0, 3,
          if b.toNat = 0xF0 then 0x90 else 0x80,
          if b.toNat = 0xF4 then 0x8F else 0xBF⟩ := by
  have hCases :
      b.toNat = 0xF0 ∨ b.toNat = 0xF1 ∨ b.toNat = 0xF2 ∨
        b.toNat = 0xF3 ∨ b.toNat = 0xF4 := by
    omega
  have hOf {n : Nat} (h : b.toNat = n) : b = UInt8.ofNat n := by
    rw [← h, UInt8.ofNat_toNat]
  rcases hCases with h | h | h | h | h <;>
    (have hEq := hOf h
     subst hEq
     rfl)

/-
  The other bytes start no character of several: they are
  ASCII, or go on with one, or would start one that is
  written too long or is too great.
-/
theorem ofByte?_eq_none
    (h : b.toNat < 0xC2 ∨ 0xF4 < b.toNat) :
    ofByte? b = none := by
  unfold ofByte?
  simp only [UInt8.lt_iff_toNat_lt, UInt8.le_iff_toNat_le,
    ← UInt8.toNat_inj, UInt8.reduceToNat]
  rcases h with hLow | hHigh
  · rw [if_pos hLow]
  · repeat rw [if_neg (by omega)]

end Lead

------------------------------------------------------------
-- One Character
------------------------------------------------------------

/-
  A byte in its range brings six more bits. Only the first
  of them has a range of its own.
-/
theorem continued_cons
    {taken bits following : Nat}
    {low high b : UInt8}
    {rest : List UInt8}
    (hLow : low.toNat ≤ b.toNat)
    (hHigh : b.toNat ≤ high.toNat) :
    continued taken bits low high (following + 1) (b :: rest) =
      continued (taken + 1) (bits * 64 + (b.toNat - 0x80))
        0x80 0xBF following rest := by
  have hInside : low ≤ b ∧ b ≤ high :=
    ⟨UInt8.le_iff_toNat_le.mpr hLow,
      UInt8.le_iff_toNat_le.mpr hHigh⟩
  rw [continued, if_pos hInside]

/- Beyond the second byte the bounds are always the same. -/
theorem continued_tail
    {taken bits following : Nat}
    {b : UInt8}
    {rest : List UInt8}
    (hLow : 0x80 ≤ b.toNat)
    (hHigh : b.toNat ≤ 0xBF) :
    continued taken bits 0x80 0xBF (following + 1)
        (b :: rest) =
      continued (taken + 1) (bits * 64 + (b.toNat - 0x80))
        0x80 0xBF following rest :=
  continued_cons hLow hHigh

/- A character goes on with one byte more in its range. -/
theorem continued_succ_eq_char_iff
    {taken bits following : Nat}
    {low high : UInt8}
    {bs rest : List UInt8}
    {c : Char} :
    continued taken bits low high (following + 1) bs =
        .char c rest ↔
      ∃ b tail, bs = b :: tail ∧
        low.toNat ≤ b.toNat ∧ b.toNat ≤ high.toNat ∧
        continued (taken + 1) (bits * 64 + (b.toNat - 0x80))
            0x80 0xBF following tail =
          .char c rest := by
  cases bs with
  | nil => simp [continued]
  | cons b tail =>
      rw [continued]
      split
      · next hInside =>
          simp only [UInt8.le_iff_toNat_le] at hInside
          constructor
          · intro hRest
            exact ⟨b, tail, rfl, hInside.1, hInside.2, hRest⟩
          · rintro ⟨b', tail', hEq, _, _, hRest⟩
            cases hEq
            exact hRest
      · next hOutside =>
          simp only [UInt8.le_iff_toNat_le] at hOutside
          constructor
          · intro hChar
            cases hChar
          · rintro ⟨b', tail', hEq, hLow, hHigh, _⟩
            cases hEq
            exact absurd ⟨hLow, hHigh⟩ hOutside

/- A character ends when no bytes are left to follow. -/
theorem continued_zero_eq_char_iff
    {taken bits : Nat}
    {low high : UInt8}
    {bs rest : List UInt8}
    {c : Char} :
    continued taken bits low high 0 bs = .char c rest ↔
      Char.ofNat bits = c ∧ bs = rest := by
  rw [continued]
  simp

/- The bytes of a character by the size of its number. -/
theorem encodeChar_cases
    (c : Char) :
    (c.toNat < 0x80 ∧
      ∃ b, String.utf8EncodeChar c = [b] ∧
        b.toNat = c.toNat) ∨
    (0x80 ≤ c.toNat ∧ c.toNat < 0x800 ∧
      ∃ b b₁, String.utf8EncodeChar c = [b, b₁] ∧
        b.toNat = c.toNat / 64 + 0xC0 ∧
        b₁.toNat = c.toNat % 64 + 0x80) ∨
    (0x800 ≤ c.toNat ∧ c.toNat < 0x10000 ∧
      ∃ b b₁ b₂, String.utf8EncodeChar c = [b, b₁, b₂] ∧
        b.toNat = c.toNat / 4096 + 0xE0 ∧
        b₁.toNat = c.toNat / 64 % 64 + 0x80 ∧
        b₂.toNat = c.toNat % 64 + 0x80) ∨
    (0x10000 ≤ c.toNat ∧
      ∃ b b₁ b₂ b₃,
        String.utf8EncodeChar c = [b, b₁, b₂, b₃] ∧
          b.toNat = c.toNat / 262144 + 0xF0 ∧
          b₁.toNat = c.toNat / 4096 % 64 + 0x80 ∧
          b₂.toNat = c.toNat / 64 % 64 + 0x80 ∧
          b₃.toNat = c.toNat % 64 + 0x80) := by
  have hValid : c.toNat < 0x110000 := by
    have hNumber := c.valid
    have hEq : c.val.toNat = c.toNat := rfl
    unfold UInt32.isValidChar Nat.isValidChar at hNumber
    omega
  unfold String.utf8EncodeChar
  rw [show c.val.toNat = c.toNat from rfl]
  by_cases hOne : c.toNat ≤ 127
  · left
    refine ⟨by omega, _, if_pos hOne, ?_⟩
    rw [UInt8.toNat_ofNat']
    omega
  · rw [if_neg hOne]
    right
    by_cases hTwo : c.toNat ≤ 2047
    · left
      refine ⟨by omega, by omega, _, _, if_pos hTwo, ?_, ?_⟩ <;>
        rw [UInt8.toNat_ofNat'] <;> omega
    · rw [if_neg hTwo]
      right
      by_cases hThree : c.toNat ≤ 65535
      · left
        refine
          ⟨by omega, by omega, _, _, _, if_pos hThree,
            ?_, ?_, ?_⟩ <;>
          rw [UInt8.toNat_ofNat'] <;> omega
      · right
        refine
          ⟨by omega, _, _, _, _, if_neg hThree,
            ?_, ?_, ?_, ?_⟩ <;>
          rw [UInt8.toNat_ofNat'] <;> omega

/- An ASCII byte is a character by itself. -/
theorem eq_of_mem_encodeChar
    {c : Char}
    {b : UInt8}
    (hMember : b ∈ String.utf8EncodeChar c)
    (hSize : b.toNat < 0x80) :
    String.utf8EncodeChar c = [b] ∧ c.toNat = b.toNat := by
  rcases encodeChar_cases c with
    ⟨_, a, hBytes, ha⟩ | ⟨_, _, a, a₁, hBytes, ha⟩ |
      ⟨_, _, a, a₁, a₂, hBytes, ha⟩ |
      ⟨_, a, a₁, a₂, a₃, hBytes, ha⟩
  · rw [hBytes, List.mem_singleton] at hMember
    subst hMember
    exact ⟨hBytes, ha.symm⟩
  all_goals
    simp only [hBytes, List.mem_cons, List.not_mem_nil,
      or_false] at hMember
    rcases hMember with rfl | rfl | rfl | rfl <;> omega

/- A number that is a character's is kept as it is. -/
theorem toNat_charOfNat
    {n : Nat}
    (h : n < 0xD800 ∨ 0xDFFF < n ∧ n < 0x110000) :
    (Char.ofNat n).toNat = n := by
  have hValid : n.isValidChar := h
  rw [Char.ofNat, dif_pos hValid]
  rfl

theorem not_lt_of_le_toNat
    {b : UInt8}
    (h : 0x80 ≤ b.toNat) :
    ¬ b < 0x80 := by
  rw [UInt8.lt_iff_toNat_lt]
  exact Nat.not_lt.mpr h

theorem charOfNat_eq
    {n : Nat}
    {c : Char}
    (h : n = c.toNat) :
    Char.ofNat n = c := by
  rw [h, Char.ofNat_toNat]

/- A character is read off the front of its own bytes. -/
theorem head_encodeChar
    (c : Char)
    (rest : List UInt8) :
    ∃ b tail, String.utf8EncodeChar c = b :: tail ∧
      head b (tail ++ rest) = .char c rest := by
  rcases encodeChar_cases c with
    ⟨hSize, b, hBytes, hb⟩ |
      ⟨hLow, hHigh, b, b₁, hBytes, hb, hb₁⟩ |
      ⟨hLow, hHigh, b, b₁, b₂, hBytes, hb, hb₁, hb₂⟩ |
      ⟨hLow, b, b₁, b₂, b₃, hBytes, hb, hb₁, hb₂, hb₃⟩
  · have hLess : b < 0x80 := by
      rw [UInt8.lt_iff_toNat_lt, hb]
      exact hSize
    refine ⟨b, [], hBytes, ?_⟩
    rw [head, if_pos hLess, charOfNat_eq hb]
    rfl
  · refine ⟨b, [b₁], hBytes, ?_⟩
    rw [head, if_neg (not_lt_of_le_toNat (by omega)),
      Lead.ofByte?_two (by omega) (by omega)]
    dsimp only [List.cons_append, List.nil_append]
    rw [continued_tail (by omega) (by omega), continued,
      charOfNat_eq (c := c) (by omega)]
  · have hNumber : c.toNat < 0xD800 ∨ 0xDFFF < c.toNat := by
      rcases c.valid with h | h
      · exact Or.inl h
      · exact Or.inr h.1
    refine ⟨b, [b₁, b₂], hBytes, ?_⟩
    rw [head, if_neg (not_lt_of_le_toNat (by omega)),
      Lead.ofByte?_three (by omega) (by omega)]
    dsimp only [List.cons_append, List.nil_append]
    rw [continued_cons, continued_tail (by omega) (by omega),
      continued, charOfNat_eq (c := c) (by omega)]
    · split <;> simp only [UInt8.reduceToNat] <;> omega
    · split <;> simp only [UInt8.reduceToNat] <;> omega
  · have hNumber : c.toNat < 0x110000 := by
      rcases c.valid with h | h
      · exact Nat.lt_trans h (by decide)
      · exact h.2
    refine ⟨b, [b₁, b₂, b₃], hBytes, ?_⟩
    rw [head, if_neg (not_lt_of_le_toNat (by omega)),
      Lead.ofByte?_four (by omega) (by omega)]
    dsimp only [List.cons_append, List.nil_append]
    rw [continued_cons, continued_tail (by omega) (by omega),
      continued_tail (by omega) (by omega), continued,
      charOfNat_eq (c := c) (by omega)]
    · split <;> simp only [UInt8.reduceToNat] <;> omega
    · split <;> simp only [UInt8.reduceToNat] <;> omega

/- The bytes of a character of seven bits. -/
theorem encodeChar_one
    {c : Char}
    {b : UInt8}
    (hSize : b.toNat < 0x80)
    (hNumber : c.toNat = b.toNat) :
    String.utf8EncodeChar c = [b] := by
  rcases encodeChar_cases c with
    ⟨_, a, hBytes, ha⟩ | ⟨hBeyond, _⟩ | ⟨hBeyond, _⟩ |
      ⟨hBeyond, _⟩
  · rw [hBytes, UInt8.toNat_inj.mp (ha.trans hNumber)]
  all_goals omega

/- The bytes of a character of eleven bits. -/
theorem encodeChar_two
    {c : Char}
    {b b₁ : UInt8}
    (hb : 0xC2 ≤ b.toNat ∧ b.toNat ≤ 0xDF)
    (hb₁ : 0x80 ≤ b₁.toNat ∧ b₁.toNat ≤ 0xBF)
    (hNumber :
      c.toNat =
        (b.toNat - 0xC0) * 64 + (b₁.toNat - 0x80)) :
    String.utf8EncodeChar c = [b, b₁] := by
  rcases encodeChar_cases c with
    ⟨hBeyond, _⟩ | ⟨_, _, a, a₁, hBytes, ha, ha₁⟩ |
      ⟨hBeyond, _⟩ | ⟨hBeyond, _⟩
  · omega
  · have hSame : a = b := UInt8.toNat_inj.mp (by omega)
    have hSame₁ : a₁ = b₁ := UInt8.toNat_inj.mp (by omega)
    rw [hBytes, hSame, hSame₁]
  all_goals omega

/-
  The bytes of a character of sixteen bits, which is not
  one of fewer.
-/
theorem encodeChar_three
    {c : Char}
    {b b₁ b₂ : UInt8}
    (hb : 0xE0 ≤ b.toNat ∧ b.toNat ≤ 0xEF)
    (hb₁ : 0x80 ≤ b₁.toNat ∧ b₁.toNat ≤ 0xBF)
    (hb₂ : 0x80 ≤ b₂.toNat ∧ b₂.toNat ≤ 0xBF)
    (hNumber :
      c.toNat =
        ((b.toNat - 0xE0) * 64 + (b₁.toNat - 0x80)) * 64 +
          (b₂.toNat - 0x80))
    (hShortest : 0x800 ≤ c.toNat) :
    String.utf8EncodeChar c = [b, b₁, b₂] := by
  rcases encodeChar_cases c with
    ⟨hBeyond, _⟩ | ⟨_, hBeyond, _⟩ |
      ⟨_, _, a, a₁, a₂, hBytes, ha, ha₁, ha₂⟩ |
      ⟨hBeyond, _⟩
  · omega
  · omega
  · have hSame : a = b := UInt8.toNat_inj.mp (by omega)
    have hSame₁ : a₁ = b₁ := UInt8.toNat_inj.mp (by omega)
    have hSame₂ : a₂ = b₂ := UInt8.toNat_inj.mp (by omega)
    rw [hBytes, hSame, hSame₁, hSame₂]
  · omega

/- The bytes of a character of more bits than sixteen. -/
theorem encodeChar_four
    {c : Char}
    {b b₁ b₂ b₃ : UInt8}
    (hb : 0xF0 ≤ b.toNat)
    (hb₁ : 0x80 ≤ b₁.toNat ∧ b₁.toNat ≤ 0xBF)
    (hb₂ : 0x80 ≤ b₂.toNat ∧ b₂.toNat ≤ 0xBF)
    (hb₃ : 0x80 ≤ b₃.toNat ∧ b₃.toNat ≤ 0xBF)
    (hNumber :
      c.toNat =
        (((b.toNat - 0xF0) * 64 + (b₁.toNat - 0x80)) * 64 +
          (b₂.toNat - 0x80)) * 64 + (b₃.toNat - 0x80))
    (hShortest : 0x10000 ≤ c.toNat) :
    String.utf8EncodeChar c = [b, b₁, b₂, b₃] := by
  rcases encodeChar_cases c with
    ⟨hBeyond, _⟩ | ⟨_, hBeyond, _⟩ | ⟨_, hBeyond, _⟩ |
      ⟨_, a, a₁, a₂, a₃, hBytes, ha, ha₁, ha₂, ha₃⟩
  · omega
  · omega
  · omega
  · have hSame : a = b := UInt8.toNat_inj.mp (by omega)
    have hSame₁ : a₁ = b₁ := UInt8.toNat_inj.mp (by omega)
    have hSame₂ : a₂ = b₂ := UInt8.toNat_inj.mp (by omega)
    have hSame₃ : a₃ = b₃ := UInt8.toNat_inj.mp (by omega)
    rw [hBytes, hSame, hSame₁, hSame₂, hSame₃]

/- The bounds of a byte after the second. -/
theorem tail_bounds
    {b : UInt8}
    (hLow : (0x80 : UInt8).toNat ≤ b.toNat)
    (hHigh : b.toNat ≤ (0xBF : UInt8).toNat) :
    0x80 ≤ b.toNat ∧ b.toNat ≤ 0xBF :=
  ⟨hLow, hHigh⟩

section

variable {b : UInt8}
variable {bs rest : List UInt8}
variable {c : Char}

/- Two bytes that are read as a character are its bytes. -/
theorem cons_eq_of_head_two
    (hLow : 0xC2 ≤ b.toNat)
    (hHigh : b.toNat ≤ 0xDF)
    (h : head b bs = .char c rest) :
    b :: bs = String.utf8EncodeChar c ++ rest := by
  rw [head, if_neg (not_lt_of_le_toNat (by omega)),
    Lead.ofByte?_two hLow hHigh] at h
  dsimp only at h
  rw [continued_succ_eq_char_iff] at h
  rcases h with ⟨b₁, tail, rfl, hLow₁, hHigh₁, hRest⟩
  rw [continued_zero_eq_char_iff] at hRest
  rcases hRest with ⟨rfl, rfl⟩
  have hb₁ := tail_bounds hLow₁ hHigh₁
  rw [encodeChar_two ⟨hLow, hHigh⟩ hb₁
    (toNat_charOfNat (by omega))]
  rfl

/-
  Three bytes that are read as a character are its bytes.
  The range of the second keeps out surrogates and what
  could be written shorter.
-/
theorem cons_eq_of_head_three
    (hLow : 0xE0 ≤ b.toNat)
    (hHigh : b.toNat ≤ 0xEF)
    (h : head b bs = .char c rest) :
    b :: bs = String.utf8EncodeChar c ++ rest := by
  rw [head, if_neg (not_lt_of_le_toNat (by omega)),
    Lead.ofByte?_three hLow hHigh] at h
  dsimp only at h
  rw [continued_succ_eq_char_iff] at h
  rcases h with ⟨b₁, tail, rfl, hLow₁, hHigh₁, hRest⟩
  rw [continued_succ_eq_char_iff] at hRest
  rcases hRest with ⟨b₂, tail, rfl, hLow₂, hHigh₂, hRest⟩
  rw [continued_zero_eq_char_iff] at hRest
  rcases hRest with ⟨rfl, rfl⟩
  have hb₂ := tail_bounds hLow₂ hHigh₂
  -- The second byte keeps out overlong forms and surrogates.
  have hb₁ :
      (0x80 ≤ b₁.toNat ∧ b₁.toNat ≤ 0xBF) ∧
        (b.toNat = 0xE0 → 0xA0 ≤ b₁.toNat) ∧
        (b.toNat = 0xED → b₁.toNat ≤ 0x9F) := by
    revert hLow₁ hHigh₁
    split <;> split <;>
      simp only [UInt8.reduceToNat] <;> omega
  have hNumber :=
    toNat_charOfNat
      (n := ((b.toNat - 0xE0) * 64 + (b₁.toNat - 0x80)) * 64 +
        (b₂.toNat - 0x80))
      (by omega)
  rw [encodeChar_three ⟨hLow, hHigh⟩ hb₁.1 hb₂ hNumber
    (by omega)]
  rfl

/- Four bytes that are read as a character are its bytes. -/
theorem cons_eq_of_head_four
    (hLow : 0xF0 ≤ b.toNat)
    (hHigh : b.toNat ≤ 0xF4)
    (h : head b bs = .char c rest) :
    b :: bs = String.utf8EncodeChar c ++ rest := by
  rw [head, if_neg (not_lt_of_le_toNat (by omega)),
    Lead.ofByte?_four hLow hHigh] at h
  dsimp only at h
  rw [continued_succ_eq_char_iff] at h
  rcases h with ⟨b₁, tail, rfl, hLow₁, hHigh₁, hRest⟩
  rw [continued_succ_eq_char_iff] at hRest
  rcases hRest with ⟨b₂, tail, rfl, hLow₂, hHigh₂, hRest⟩
  rw [continued_succ_eq_char_iff] at hRest
  rcases hRest with ⟨b₃, tail, rfl, hLow₃, hHigh₃, hRest⟩
  rw [continued_zero_eq_char_iff] at hRest
  rcases hRest with ⟨rfl, rfl⟩
  have hb₂ := tail_bounds hLow₂ hHigh₂
  have hb₃ := tail_bounds hLow₃ hHigh₃
  -- The second byte keeps out overlong forms and the rest.
  have hb₁ :
      (0x80 ≤ b₁.toNat ∧ b₁.toNat ≤ 0xBF) ∧
        (b.toNat = 0xF0 → 0x90 ≤ b₁.toNat) ∧
        (b.toNat = 0xF4 → b₁.toNat ≤ 0x8F) := by
    revert hLow₁ hHigh₁
    split <;> split <;>
      simp only [UInt8.reduceToNat] <;> omega
  have hNumber :=
    toNat_charOfNat
      (n := (((b.toNat - 0xF0) * 64 + (b₁.toNat - 0x80)) * 64 +
        (b₂.toNat - 0x80)) * 64 + (b₃.toNat - 0x80))
      (by omega)
  rw [encodeChar_four hLow hb₁.1 hb₂ hb₃ hNumber (by omega)]
  rfl

/- What is read off the front are the character's bytes. -/
theorem cons_eq_of_head
    (h : head b bs = .char c rest) :
    b :: bs = String.utf8EncodeChar c ++ rest := by
  by_cases hOne : b.toNat < 0x80
  · have hLess : b < 0x80 := UInt8.lt_iff_toNat_lt.mpr hOne
    rw [head, if_pos hLess] at h
    cases h
    rw [encodeChar_one hOne (toNat_charOfNat (by omega))]
    rfl
  · by_cases hNone : b.toNat < 0xC2 ∨ 0xF4 < b.toNat
    · rw [head, if_neg (not_lt_of_le_toNat (by omega)),
        Lead.ofByte?_eq_none hNone] at h
      cases h
    · by_cases hTwo : b.toNat ≤ 0xDF
      · exact cons_eq_of_head_two (by omega) hTwo h
      · by_cases hThree : b.toNat ≤ 0xEF
        · exact cons_eq_of_head_three (by omega) hThree h
        · exact
            cons_eq_of_head_four (by omega) (by omega) h

end

------------------------------------------------------------
-- Texts
------------------------------------------------------------

/-
  A run: characters are read one after another, wherever
  the text stands.
-/
theorem decodeFrom_encode
    (cs : List Char)
    (index : Nat) :
    decodeFrom index (encode cs) = .ok cs := by
  induction cs generalizing index with
  | nil => rw [encode_nil, decodeFrom]
  | cons c cs ih =>
      rcases head_encodeChar c (encode cs) with
        ⟨b, tail, hBytes, hHead⟩
      rw [encode_cons, hBytes, List.cons_append, decodeFrom]
      split
      · next c' rest' hSame =>
          rw [hHead] at hSame
          cases hSame
          rw [ih]
          rfl
      · next hSame =>
          rw [hHead] at hSame
          cases hSame
      · next hSame =>
          rw [hHead] at hSame
          cases hSame

/- What is encoded is decoded. -/
@[simp]
theorem decode_encode
    (cs : List Char) :
    decode (encode cs) = .ok cs :=
  decodeFrom_encode cs 0

@[simp]
theorem decode?_encode
    (cs : List Char) :
    decode? (encode cs) = some cs := by
  rw [decode?, decode_encode]

/- A run: bytes that are decoded are those of the text. -/
theorem encode_of_decodeFrom_eq_ok
    {index : Nat}
    {bs : List UInt8}
    {cs : List Char}
    (h : decodeFrom index bs = .ok cs) :
    encode cs = bs := by
  fun_induction decodeFrom index bs generalizing cs with
  | case1 =>
      cases h
      rfl
  | case2 index b rest c rest' hHead ih =>
      rcases Steps.bind_eq_ok_iff.mp h with ⟨cs', hRest, hEq⟩
      cases hEq
      rw [encode_cons, ih hRest, cons_eq_of_head hHead]
  | case3 => cases h
  | case4 => cases h

/- Bytes are text exactly if they are the bytes of it. -/
theorem decode_eq_ok_iff
    {bs : List UInt8}
    {cs : List Char} :
    decode bs = .ok cs ↔ bs = encode cs := by
  constructor
  · intro h
    exact (encode_of_decodeFrom_eq_ok h).symm
  · intro h
    rw [h, decode_encode]

theorem decode?_eq_some_iff
    {bs : List UInt8}
    {cs : List Char} :
    decode? bs = some cs ↔ bs = encode cs := by
  rw [← decode_eq_ok_iff, decode?]
  cases decode bs <;> simp

end Utf8

end PartitionPruning
