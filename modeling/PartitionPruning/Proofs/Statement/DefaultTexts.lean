import Mathlib.Data.List.TakeWhile
import PartitionPruning.Proofs.Expr.Literals
import PartitionPruning.Statement.Default

/-
  The forms of default texts.

  Strings, numerals and negative numerals in parentheses are
  recognized by their first byte and then taken apart as
  bytes.  This module tells what becomes of texts that are
  expressions, with white space and doubled quotes in them.

  Key definitions include:
    * `DefaultText.Tight`
    * `DefaultText.ReadsAlike`

  Main declarations:
    * `DefaultText.dropLast_quoted_iff`
    * `DefaultText.isBlank_of_isNumeral`
    * `DefaultText.numeral_stripped_iff`
-/

namespace PartitionPruning

open CharClass (isBlank isDigit)
open Utf8 (asciiByte)

------------------------------------------------------------
-- Plain Forms
------------------------------------------------------------

namespace DefaultText

/-
  White space around the digits of a negative numeral that
  the reading in parentheses gets over: it takes a byte off
  either side, if the numeral is not too short.
-/
def Tight
    (gap digits after : List Char) : Prop :=
  let before := (Utf8.encode gap).length
  let behind := (Utf8.encode after).length
  before = behind ∧ before ≤ 1 ∨
    before = 1 ∧ behind = 0 ∧
      (digits.length = 1 ∨ Numeral.value digits = 0) ∨
    before = 0 ∧ behind = 1 ∧
      (digits.length = 1 ∨ digits.head? = some '0')

instance
    (gap digits after : List Char) :
    Decidable (Tight gap digits after) := by
  unfold Tight
  infer_instance

/-
  The text is no string, or one that ends with its quote and
  has no other in it, and it is no negative numeral, or one
  with little white space.
-/
def ReadsAlike : List Char → Prop
  | '\'' :: cs =>
      cs.getLast? = some '\'' ∧ '\'' ∉ cs.dropLast
  | '-' :: cs =>
      let rest := cs.dropWhile isBlank
      Tight (cs.takeWhile isBlank) (rest.takeWhile isDigit)
        (rest.dropWhile isDigit)
  | _ => True

instance
    (cs : List Char) :
    Decidable (ReadsAlike cs) := by
  unfold ReadsAlike
  split <;> infer_instance

------------------------------------------------------------
-- Quoted Strings
------------------------------------------------------------

open Lexeme (doubled)

/- Without quotes there is nothing to double. -/
theorem doubled_eq_self
    {cs : List Char}
    (h : '\'' ∉ cs) :
    doubled cs = cs := by
  induction cs with
  | nil => rfl
  | cons c cs ih =>
      rw [List.mem_cons, not_or] at h
      have hOther : ¬ c = '\'' := fun hEq => h.1 hEq.symm
      have hRest : doubled cs = cs := ih h.2
      unfold doubled at hRest ⊢
      rw [List.flatMap_cons, if_neg hOther, hRest]
      rfl

/- Doubling adds a byte for each quote. -/
theorem length_encode_doubled
    (cs : List Char) :
    (Utf8.encode (doubled cs)).length =
      (Utf8.encode cs).length + cs.count '\'' := by
  induction cs with
  | nil => rfl
  | cons c cs ih =>
      unfold doubled at ih ⊢
      rw [List.flatMap_cons, Utf8.encode_append,
        List.length_append, ih, Utf8.encode_cons,
        List.length_append, List.count_cons]
      by_cases hQuote : c = '\''
      · subst hQuote
        have hTwo :
            (Utf8.encode ['\'', '\'']).length = 2 := rfl
        have hOne :
            (String.utf8EncodeChar '\'').length = 1 := rfl
        rw [if_pos rfl, hTwo, hOne, if_pos (by simp)]
        omega
      · simp [hQuote, Utf8.encode]
        omega

theorem mem_doubled_iff
    {cs : List Char} :
    '\'' ∈ doubled cs ↔ '\'' ∈ cs := by
  simp only [doubled, List.mem_flatMap]
  constructor
  · rintro ⟨c, hMember, hQuote⟩
    split at hQuote
    · next hEq => exact hEq ▸ hMember
    · rw [List.mem_singleton] at hQuote
      exact hQuote ▸ hMember
  · intro hMember
    exact ⟨'\'', hMember, by simp⟩

/- A text that is not empty has bytes. -/
theorem encode_length_pos
    {cs : List Char}
    (h : cs ≠ []) :
    0 < (Utf8.encode cs).length := by
  cases cs with
  | nil => exact absurd rfl h
  | cons c cs =>
      rw [Utf8.encode_cons, List.length_append,
        String.length_utf8EncodeChar]
      have hSize := c.utf8Size_pos
      omega

theorem encode_ne_nil
    {cs : List Char}
    (h : cs ≠ []) :
    Utf8.encode cs ≠ [] :=
  List.length_pos_iff.mp (encode_length_pos h)

/-
  Taking the last byte off a string and its quote leaves its
  content if nothing follows the quote and none is doubled.
-/
theorem dropLast_quoted_iff
    {content after : List Char} :
    (Utf8.encode (doubled content ++ '\'' :: after)).dropLast =
        Utf8.encode content ↔
      after = [] ∧ '\'' ∉ content := by
  constructor
  · intro h
    have hLength := congrArg List.length h
    rw [List.length_dropLast, Utf8.encode_append,
      List.length_append, length_encode_doubled,
      Utf8.encode_cons, List.length_append] at hLength
    have hQuote :
        (String.utf8EncodeChar '\'').length = 1 := rfl
    have hAfter : after = [] := by
      apply Classical.byContradiction
      intro hNe
      have hPos := encode_length_pos hNe
      omega
    refine ⟨hAfter, ?_⟩
    subst hAfter
    rw [Utf8.encode_nil, List.length_nil] at hLength
    exact List.count_eq_zero.mp (by omega)
  · rintro ⟨rfl, hPlain⟩
    have hQuote : Utf8.encode ['\''] = [0x27] := rfl
    rw [doubled_eq_self hPlain, Utf8.encode_append, hQuote,
      List.dropLast_concat]

/- Such a string is one of the plain form. -/
theorem readsAlike_quote_iff
    {content after : List Char}
    (hBlank : after.all isBlank = true) :
    ReadsAlike ('\'' :: (doubled content ++ '\'' :: after)) ↔
      after = [] ∧ '\'' ∉ content := by
  rw [ReadsAlike]
  constructor
  · rintro ⟨hLast, hPlain⟩
    rcases List.eq_nil_or_concat after with
      rfl | ⟨before, c, rfl⟩
    · rw [List.dropLast_concat, mem_doubled_iff] at hPlain
      exact ⟨rfl, hPlain⟩
    · rw [List.concat_eq_append, ← List.cons_append,
        ← List.append_assoc, List.getLast?_concat,
        Option.some.injEq] at hLast
      subst hLast
      have hQuote : isBlank '\'' = false :=
        CharClass.isBlank_eq_false (by decide)
      simp [hQuote] at hBlank
  · rintro ⟨rfl, hPlain⟩
    rw [List.dropLast_concat, mem_doubled_iff]
    exact ⟨List.getLast?_concat, hPlain⟩

------------------------------------------------------------
-- Numerals
------------------------------------------------------------

/- The bytes of the digits are in a row. -/
theorem isDigitByte_iff
    {b : UInt8} :
    isDigitByte b = true ↔
      0x30 ≤ b.toNat ∧ b.toNat ≤ 0x39 := by
  unfold isDigitByte
  rw [decide_eq_true_iff, UInt8.le_iff_toNat_le,
    UInt8.le_iff_toNat_le]
  rfl

/- After its sign a numeral has digits and points only. -/
theorem mem_of_isNumeral
    {text : List UInt8}
    {b : UInt8}
    (h : isNumeral text = true)
    (hMember : b ∈ unsigned text) :
    b = 0x2E ∨ isDigitByte b = true := by
  simp only [isNumeral, Bool.and_eq_true] at h
  rcases h with ⟨⟨_, hWhole⟩, hFraction⟩
  rw [← List.takeWhile_append_dropWhile
    (p := (· != 0x2E)) (l := unsigned text),
    List.mem_append] at hMember
  rcases hMember with hMember | hMember
  · exact Or.inr (List.all_eq_true.mp hWhole b hMember)
  · cases hRest : (unsigned text).dropWhile (· != 0x2E) with
    | nil =>
        rw [hRest] at hMember
        cases hMember
    | cons x rest =>
        rw [hRest] at hMember hFraction
        have hPoint :=
          List.head?_dropWhile_not (· != 0x2E)
            (unsigned text)
        rw [hRest] at hPoint
        rcases List.mem_cons.mp hMember with rfl | hTail
        · left
          simpa using hPoint
        · right
          exact List.all_eq_true.mp hFraction b hTail

/- Digits and points have no sign before them. -/
theorem unsigned_eq_self
    {text : List UInt8}
    (h : ∀ b ∈ text, b = 0x2E ∨ isDigitByte b = true) :
    unsigned text = text := by
  cases text with
  | nil => rfl
  | cons b rest =>
      have hNoSign : ¬ (b = 0x2D ∨ b = 0x2B) := by
        rintro (rfl | rfl) <;>
          exact absurd (h _ List.mem_cons_self) (by decide)
      rw [unsigned, if_neg hNoSign]

/- A text that is a numeral does not start with a quote. -/
theorem exists_cons_of_isNumeral
    {text : List UInt8}
    (h : isNumeral text = true) :
    ∃ b rest, text = b :: rest ∧ b ≠ 0x27 := by
  cases text with
  | nil => cases h
  | cons b rest =>
      refine ⟨b, rest, rfl, ?_⟩
      rintro rfl
      exact absurd (mem_of_isNumeral h List.mem_cons_self)
        (by decide)

/- No byte of white space stands in a numeral. -/
theorem not_mem_of_isBlank
    {c : Char}
    {b : UInt8}
    (hBlank : isBlank c = true)
    (hMember : b ∈ String.utf8EncodeChar c) :
    ¬ (b = 0x2E ∨ isDigitByte b = true) := by
  intro hByte
  have hBounds : 0x2E ≤ b.toNat ∧ b.toNat ≤ 0x39 := by
    rcases hByte with rfl | hDigit
    · exact ⟨by decide, by decide⟩
    · have hRange := isDigitByte_iff.mp hDigit
      exact ⟨by omega, hRange.2⟩
  have hChar :=
    (Utf8.eq_of_mem_encodeChar hMember (by omega)).2
  have hVisible : isBlank c = false :=
    CharClass.isBlank_eq_false (by omega)
  rw [hVisible] at hBlank
  cases hBlank

/- Past its first byte a numeral has no white space. -/
theorem isBlank_of_isNumeral
    {b : UInt8}
    {cs : List Char}
    {c : Char}
    (h : isNumeral (b :: Utf8.encode cs) = true)
    (hMember : c ∈ cs) :
    isBlank c = false := by
  rw [← Bool.not_eq_true]
  intro hBlank
  rcases Utf8.head_encodeChar c [] with
    ⟨x, tail, hBytes, _⟩
  have hFirst : x ∈ String.utf8EncodeChar c := by
    rw [hBytes]
    exact List.mem_cons_self
  have hText : x ∈ Utf8.encode cs :=
    List.mem_flatMap.mpr ⟨c, hMember, hFirst⟩
  have hUnsigned : x ∈ unsigned (b :: Utf8.encode cs) := by
    rw [unsigned]
    split
    · exact hText
    · exact List.mem_cons_of_mem b hText
  exact not_mem_of_isBlank hBlank hFirst
    (mem_of_isNumeral h hUnsigned)

/- There is no white space in what looks like a number. -/
theorem eq_nil_of_isNumeral
    {b : UInt8}
    {cs ds : List Char}
    (h : isNumeral (b :: Utf8.encode cs) = true)
    (hBlank : ds.all isBlank = true)
    (hSub : ds ⊆ cs) :
    ds = [] := by
  rw [List.eq_nil_iff_forall_not_mem]
  intro c hMember
  have hVisible := isBlank_of_isNumeral h (hSub hMember)
  rw [List.all_eq_true.mp hBlank c hMember] at hVisible
  cases hVisible

/- The bytes of digits are the digits in ASCII. -/
theorem isDigitByte_of_mem
    {ds : List Char}
    {b : UInt8}
    (hDigits : ds.all isDigit = true)
    (hMember : b ∈ Utf8.encode ds) :
    isDigitByte b = true := by
  rw [Utf8.encode_digits hDigits] at hMember
  rcases List.mem_map.mp hMember with ⟨d, hDigit, rfl⟩
  have hRange :=
    CharClass.isDigit_iff.mp
      (List.all_eq_true.mp hDigits d hDigit)
  rw [isDigitByte_iff, Utf8.toNat_asciiByte (by omega)]
  exact hRange

/-
  Behind its sign a numeral has digits, and a point and
  digits after it or none.
-/
theorem isNumeral_of_unsigned
    {text whole : List UInt8}
    (fraction? : Option (List UInt8))
    (hText :
      unsigned text =
        whole ++
          (fraction?.map (0x2E :: ·)).getD [])
    (hWhole : ∀ b ∈ whole, isDigitByte b = true)
    (hFraction :
      ∀ b ∈ fraction?.getD [], isDigitByte b = true)
    (hSome : whole ≠ [] ∨ fraction?.getD [] ≠ []) :
    isNumeral text = true := by
  have hNoPoint : ∀ b ∈ whole, (b != 0x2E) = true := by
    intro b hMember
    have hRange := isDigitByte_iff.mp (hWhole b hMember)
    rw [bne_iff_ne]
    rintro rfl
    exact absurd hRange.1 (by decide)
  have hFirst :
      (unsigned text).takeWhile (· != 0x2E) = whole := by
    rw [hText, List.takeWhile_append_of_pos hNoPoint]
    cases fraction? <;> simp
  have hRest :
      ((unsigned text).dropWhile (· != 0x2E)).drop 1 =
        fraction?.getD [] := by
    rw [hText, List.dropWhile_append_of_pos hNoPoint]
    cases fraction? <;> simp
  rw [isNumeral, hFirst, hRest, List.all_eq_true.mpr hWhole,
    List.all_eq_true.mpr hFraction, Bool.and_true,
    Bool.and_true, Bool.not_eq_true',
    Bool.and_eq_false_iff, List.isEmpty_eq_false_iff,
    List.isEmpty_eq_false_iff]
  exact hSome

/- Digits after a minus are a numeral. -/
theorem isNumeral_minus
    {ds : List Char}
    (hNe : ds ≠ [])
    (hDigits : ds.all isDigit = true) :
    isNumeral (0x2D :: Utf8.encode ds) = true :=
  have hUnsigned :
      unsigned (0x2D :: Utf8.encode ds) =
        Utf8.encode ds ++ [] := by
    rw [unsigned, if_pos (Or.inl rfl), List.append_nil]
  isNumeral_of_unsigned none hUnsigned
    (fun _ hMember => isDigitByte_of_mem hDigits hMember)
    (fun _ hMember => absurd hMember List.not_mem_nil)
    (Or.inl (encode_ne_nil hNe))

/- A numeral is an integer if its text spells one. -/
theorem numeral_eq_int_iff
    {c : Collation}
    {text : List UInt8}
    {v : Int64} :
    numeral c text = .int v ↔
      ∃ cs, text = Utf8.encode cs ∧
        Numeral.int64? cs = some v := by
  have hSome :
      (Utf8.decode? text).bind Numeral.int64? = some v ↔
        ∃ cs, text = Utf8.encode cs ∧
          Numeral.int64? cs = some v := by
    rw [Option.bind_eq_some_iff]
    simp only [Utf8.decode?_eq_some_iff]
  rw [← hSome]
  unfold numeral
  split
  · next w hValue => simp [hValue]
  · next hNone => simp [hNone]

/-
  A number behind a minus is the negative number, where
  that fits into 64 bits.
-/
theorem numeral_minus_eq_int_iff
    {c : Collation}
    {text : List UInt8}
    {v : Int64} :
    numeral c (0x2D :: text) = .int v ↔
      ∃ ds, text = Utf8.encode ds ∧
        Numeral.int64? ('-' :: ds) = some v := by
  rw [numeral_eq_int_iff]
  constructor
  · rintro ⟨cs, hText, hValue⟩
    rcases Utf8.eq_cons_of_encode (c := '-') (by decide)
        hText.symm with
      ⟨ds, rfl, hRest⟩
    exact ⟨ds, hRest.symm, hValue⟩
  · rintro ⟨ds, rfl, hValue⟩
    exact ⟨'-' :: ds, rfl, hValue⟩

theorem numeral_encode_minus_iff
    {c : Collation}
    {ds : List Char}
    {v : Int64} :
    numeral c (0x2D :: Utf8.encode ds) = .int v ↔
      Numeral.int64? ('-' :: ds) = some v := by
  rw [numeral_minus_eq_int_iff]
  constructor
  · rintro ⟨others, hSame, hOthers⟩
    rw [Utf8.encode_injective hSame]
    exact hOthers
  · intro hSame
    exact ⟨ds, rfl, hSame⟩

------------------------------------------------------------
-- Negative Numerals
------------------------------------------------------------

/- Taking a byte off both sides, with bytes on both sides. -/
theorem stripped_append
    {front back : List UInt8}
    (hFront : front ≠ [])
    (hBack : back ≠ []) :
    ((front ++ back).drop 1).dropLast =
      front.tail ++ back.dropLast := by
  rw [List.drop_one, List.tail_append_of_ne_nil hFront,
    List.dropLast_append_of_ne_nil hBack]

section

variable {gap digits after : List Char}
variable {v : Int64}

/-
  What is left of the digits and the white space around them
  is made of digits only if there is at most a byte of white
  space on either side.
-/
theorem lengths_le_one
    (hGap : gap.all isBlank = true)
    (hAfter : after.all isBlank = true)
    (hNe : digits ≠ [])
    (hDigits :
      ∀ b ∈ ((Utf8.encode
          (gap ++ (digits ++ after))).drop 1).dropLast,
        isDigitByte b = true) :
    (Utf8.encode gap).length ≤ 1 ∧
      (Utf8.encode after).length ≤ 1 := by
  have hBlankBytes {cs : List Char} {b : UInt8}
      (hBlank : cs.all isBlank = true)
      (hMember : b ∈ Utf8.encode cs) :
      ¬ isDigitByte b = true := by
    rcases List.mem_flatMap.mp hMember with ⟨c, hc, hb⟩
    intro hDigit
    exact not_mem_of_isBlank
      (List.all_eq_true.mp hBlank c hc) hb (Or.inr hDigit)
  have hNeBytes : Utf8.encode digits ≠ [] := encode_ne_nil hNe
  rw [Utf8.encode_append, Utf8.encode_append] at hDigits
  constructor
  · apply Classical.byContradiction
    intro hLong
    rcases hBytes : Utf8.encode gap with _ | ⟨x, _ | ⟨y, rest⟩⟩
    · simp [hBytes] at hLong
    · simp [hBytes] at hLong
    · have hMember : y ∈ Utf8.encode gap := by
        simp [hBytes]
      refine hBlankBytes hGap hMember (hDigits y ?_)
      rw [hBytes, stripped_append (List.cons_ne_nil _ _)
        (by simp [hNeBytes])]
      simp
  · apply Classical.byContradiction
    intro hLong
    have hAfterNe : Utf8.encode after ≠ [] := by
      intro hEmpty
      simp [hEmpty] at hLong
    have hKept : (Utf8.encode after).dropLast ≠ [] := by
      intro hEmpty
      have hLength := congrArg List.length hEmpty
      rw [List.length_dropLast, List.length_nil] at hLength
      omega
    rcases List.exists_mem_of_ne_nil _ hKept with ⟨y, hy⟩
    refine hBlankBytes hAfter (List.dropLast_subset _ hy)
      (hDigits y ?_)
    rw [← List.append_assoc, stripped_append
      (by simp [hNeBytes]) hAfterNe]
    exact List.mem_append_right _ hy

/- A byte of white space is taken off on either side. -/
theorem stripped_eq
    (hNe : digits ≠ [])
    (hDigits : digits.all isDigit = true)
    (hGapLength : (Utf8.encode gap).length ≤ 1)
    (hAfterLength : (Utf8.encode after).length ≤ 1)
    (hOpen : ¬ (gap = [] ∧ after = [])) :
    ((Utf8.encode (gap ++ (digits ++ after))).drop 1).dropLast =
      Utf8.encode
        (if gap = [] then digits.tail
        else if after = [] then digits.dropLast
        else digits) := by
  have hNeBytes : Utf8.encode digits ≠ [] := encode_ne_nil hNe
  have hOne {cs : List Char}
      (hLength : (Utf8.encode cs).length ≤ 1)
      (hSome : cs ≠ []) :
      ∃ b, Utf8.encode cs = [b] := by
    have hPos := encode_length_pos hSome
    exact List.length_eq_one_iff.mp (by omega)
  rw [Utf8.encode_append, Utf8.encode_append]
  by_cases hGap : gap = []
  · have hAfter : after ≠ [] := fun hEmpty =>
      hOpen ⟨hGap, hEmpty⟩
    rcases hOne hAfterLength hAfter with ⟨b, hByte⟩
    rw [if_pos hGap, Utf8.encode_tail_digits hDigits, hGap,
      Utf8.encode_nil, List.nil_append, hByte,
      stripped_append hNeBytes (List.cons_ne_nil _ _)]
    exact List.append_nil _
  · rcases hOne hGapLength hGap with ⟨b, hByte⟩
    rw [if_neg hGap, hByte, List.singleton_append,
      List.drop_succ_cons, List.drop_zero]
    by_cases hAfter : after = []
    · rw [if_pos hAfter, hAfter, Utf8.encode_nil,
        List.append_nil, Utf8.encode_dropLast_digits hDigits]
    · rcases hOne hAfterLength hAfter with ⟨b', hByte'⟩
      rw [if_neg hAfter, hByte', List.dropLast_concat]

theorem length_encode_eq_zero_iff
    {cs : List Char} :
    (Utf8.encode cs).length = 0 ↔ cs = [] := by
  constructor
  · intro hZero
    exact Classical.byContradiction fun hNe =>
      encode_ne_nil hNe (List.length_eq_zero_iff.mp hZero)
  · rintro rfl
    rfl

/-
  Read as in parentheses, a negative numeral with white space
  in it keeps its number if it is tight.
-/
theorem numeral_stripped_iff
    {c : Collation}
    (hGap : gap.all isBlank = true)
    (hAfter : after.all isBlank = true)
    (hValue : Numeral.int64? ('-' :: digits) = some v)
    (hOpen : ¬ (gap = [] ∧ after = []))
    (hLength :
      3 ≤ (Utf8.encode (gap ++ (digits ++ after))).length) :
    numeral c
        (0x2D ::
          ((Utf8.encode
            (gap ++ (digits ++ after))).drop 1).dropLast) =
        .int v ↔
      Tight gap digits after := by
  rcases Numeral.int64?_minus_eq_some_iff.mp hValue with
    ⟨hNe, hDigits, _⟩
  rw [Utf8.encode_append, Utf8.encode_append,
    List.length_append, List.length_append,
    Utf8.length_encode_digits hDigits] at hLength
  by_cases hLengths :
      (Utf8.encode gap).length ≤ 1 ∧
        (Utf8.encode after).length ≤ 1
  · rw [stripped_eq hNe hDigits hLengths.1 hLengths.2 hOpen,
      numeral_encode_minus_iff]
    unfold Tight
    dsimp only
    by_cases hNoGap : gap = []
    · have hSome : ¬ after = [] := fun hEmpty =>
        hOpen ⟨hNoGap, hEmpty⟩
      have hPos := encode_length_pos hSome
      have hZero := length_encode_eq_zero_iff.mpr hNoGap
      have hOne : (Utf8.encode after).length = 1 := by omega
      rw [if_pos hNoGap,
        Numeral.int64?_minus_tail_iff hValue (by omega)]
      have hTwo : ¬ digits.length = 1 := by omega
      simp [hZero, hOne, hTwo]
    · have hPos := encode_length_pos hNoGap
      have hOne : (Utf8.encode gap).length = 1 := by omega
      rw [if_neg hNoGap]
      by_cases hNoAfter : after = []
      · have hZero := length_encode_eq_zero_iff.mpr hNoAfter
        have hTwo : ¬ digits.length = 1 := by omega
        rw [if_pos hNoAfter,
          Numeral.int64?_minus_dropLast_iff hValue (by omega)]
        simp [hZero, hOne, hTwo]
      · have hPos' := encode_length_pos hNoAfter
        have hOne' : (Utf8.encode after).length = 1 := by
          omega
        rw [if_neg hNoAfter]
        simp [hOne, hOne', hValue]
  · constructor
    · intro hSame
      rcases numeral_minus_eq_int_iff.mp hSame with
        ⟨ds, hBytes, hInt⟩
      rcases Numeral.int64?_minus_eq_some_iff.mp hInt with
        ⟨_, hAll, _⟩
      refine absurd
        (lengths_le_one hGap hAfter hNe ?_) hLengths
      intro b hMember
      rw [hBytes] at hMember
      exact isDigitByte_of_mem hAll hMember
    · intro hTight
      unfold Tight at hTight
      dsimp only at hTight
      omega

/- A numeral that is too short to be in parentheses is tight. -/
theorem tight_of_length_lt
    (hNe : digits ≠ [])
    (hDigits : digits.all isDigit = true)
    (hOpen : ¬ (gap = [] ∧ after = []))
    (hLength :
      (Utf8.encode (gap ++ (digits ++ after))).length < 3) :
    Tight gap digits after := by
  rw [Utf8.encode_append, Utf8.encode_append,
    List.length_append, List.length_append,
    Utf8.length_encode_digits hDigits] at hLength
  have hPos : 0 < digits.length := List.length_pos_iff.mpr hNe
  have hSides :
      (Utf8.encode gap).length ≠ 0 ∨
        (Utf8.encode after).length ≠ 0 := by
    rw [← not_and_or, length_encode_eq_zero_iff,
      length_encode_eq_zero_iff]
    exact hOpen
  unfold Tight
  dsimp only
  omega

/- The parts of a negative numeral are found in its text. -/
theorem readsAlike_minus_iff
    (hGap : gap.all isBlank = true)
    (hAfter : after.all isBlank = true)
    (hNe : digits ≠ [])
    (hDigits : digits.all isDigit = true) :
    ReadsAlike ('-' :: (gap ++ (digits ++ after))) ↔
      Tight gap digits after := by
  have hNoBlank {cs : List Char} :
      (digits ++ cs).takeWhile isBlank = [] ∧
        (digits ++ cs).dropWhile isBlank = digits ++ cs := by
    cases digits with
    | nil => exact absurd rfl hNe
    | cons d ds =>
        rw [List.all_cons, Bool.and_eq_true] at hDigits
        have hFirst := CharClass.isBlank_of_isDigit hDigits.1
        simp [hFirst]
  have hNoDigit :=
    CharClass.takeWhile_dropWhile_of_blank
      (fun _ hDigit => CharClass.isBlank_of_isDigit hDigit)
      hAfter
  have hGapAll := List.all_eq_true.mp hGap
  have hDigitsAll := List.all_eq_true.mp hDigits
  rw [ReadsAlike, List.takeWhile_append_of_pos hGapAll,
    List.dropWhile_append_of_pos hGapAll, hNoBlank.1,
    hNoBlank.2, List.takeWhile_append_of_pos hDigitsAll,
    List.dropWhile_append_of_pos hDigitsAll, hNoDigit.1,
    hNoDigit.2, List.append_nil, List.append_nil]

end

end DefaultText

end PartitionPruning
