import Mathlib.Data.List.Chain
import PartitionPruning.Proofs.Expr.Spelling

/-
  When a text is read as the lexemes that spell it.

  Words take as many characters as they can get.  A mark or
  white space ends every word, so a text is split into the
  lexemes that it is spelled by whenever no two words stand
  side by side.

  Key definitions include:
    * `Scan.Breaks`
    * `Scan.EndsWord`
    * `Lexeme.isWord`
    * `Lexeme.Apart`

  Main declarations:
    * `Lexeme.IsSpelled.next`
    * `Lexeme.ofText_of_spell`
-/

namespace PartitionPruning

open CharClass (isBlank isDigit)

------------------------------------------------------------
-- Characters Of No Word
------------------------------------------------------------

namespace Scan

/- A character that no word before it goes on with. -/
structure Breaks
    (c : Char) : Prop where
  name : isNameChar c = false
  number : isNumberChar c = false
  quote : c ≠ '\''

/- Nothing follows a word, or a character that breaks it. -/
def EndsWord
    (after : List Char) : Prop :=
  ∀ c, after.head? = some c → Breaks c

/- White space ends a number and a name, and is no quote. -/
theorem breaks_of_isBlank
    {c : Char}
    (h : isBlank c = true) :
    Breaks c where
  name := by
    rw [isNameChar, CharClass.isAlphanumeric_of_isBlank h,
      Bool.false_or, beq_eq_false_iff_ne]
    exact CharClass.ne_of_isBlank h (by decide)
  number := by
    have hDigit : isDigit c = false := by
      rw [← Bool.not_eq_true]
      intro hDigit
      rw [CharClass.isBlank_of_isDigit hDigit] at h
      cases h
    rw [isNumberChar, hDigit, Bool.false_or,
      beq_eq_false_iff_ne]
    exact CharClass.ne_of_isBlank h (by decide)
  quote := CharClass.ne_of_isBlank h (by decide)

/- A mark ends a number and a name, and is no quote. -/
theorem breaks_of_punctuation?
    {c : Char}
    {l : Lexeme}
    (h : punctuation? c = some l) :
    Breaks c := by
  have hMark : c = '(' ∨ c = ')' ∨ c = ',' ∨ c = '-' := by
    unfold punctuation? at h
    split at h <;> simp_all
  have hSmall : c.toNat < 0x30 := by
    rcases hMark with rfl | rfl | rfl | rfl <;> decide
  constructor
  · rw [isNameChar, CharClass.isAlphanumeric_eq_false hSmall,
      Bool.false_or, beq_eq_false_iff_ne]
    rintro rfl
    exact absurd hSmall (by decide)
  · rcases hMark with rfl | rfl | rfl | rfl <;> decide
  · rcases hMark with rfl | rfl | rfl | rfl <;> decide

theorem endsWord_of_blank
    {gap : List Char}
    (h : gap.all isBlank = true) :
    EndsWord gap := by
  intro c hHead
  exact
    breaks_of_isBlank
      (List.all_eq_true.mp h c (List.mem_of_head? hHead))

/- Where words end, their characters end. -/
theorem EndsWord.span
    {p : Char → Bool}
    {cs after : List Char}
    (h : EndsWord after)
    (hBreaks : ∀ c, Breaks c → p c = false)
    (hAll : cs.all p = true) :
    (cs ++ after).takeWhile p = cs ∧
      (cs ++ after).dropWhile p = after := by
  have hMember := List.all_eq_true.mp hAll
  rw [List.takeWhile_append_of_pos hMember,
    List.dropWhile_append_of_pos hMember]
  cases after with
  | nil => simp
  | cons c rest =>
      have hFirst : p c = false := hBreaks c (h c rfl)
      simp [hFirst]

------------------------------------------------------------
-- One Lexeme
------------------------------------------------------------

variable {size : Nat}
variable {c : Char}
variable {cs after : List Char}

/- A name can go on with any character that starts one. -/
theorem isNameChar_of_isNameStart
    (h : isNameStart c = true) :
    isNameChar c = true := by
  rcases Bool.or_eq_true_iff.mp h with hLetter | hLine
  · rw [isNameChar,
      CharClass.isAlphanumeric_of_isAlphabetic hLetter]
    rfl
  · rw [isNameChar, hLine, Bool.or_true]

/- A letter or an underscore starts nothing but a name. -/
theorem isNameStart_cases
    (h : isNameStart c = true) :
    isBlank c = false ∧ punctuation? c = none ∧ c ≠ '\'' ∧
      isDigit c = false := by
  have hLarge : 0x41 ≤ c.toNat := by
    by_contra hSmall
    rw [Lexeme.isNameStart_eq_false (by omega)] at h
    cases h
  have hName := isNameChar_of_isNameStart h
  refine ⟨?_, ?_, ?_, ?_⟩
  · rw [← Bool.not_eq_true]
    intro hBlank
    rw [(breaks_of_isBlank hBlank).name] at hName
    cases hName
  · cases hMark : punctuation? c with
    | none => rfl
    | some l =>
        rw [(breaks_of_punctuation? hMark).name] at hName
        cases hName
  · rintro rfl
    exact absurd hLarge (by decide)
  · rw [← Bool.not_eq_true, CharClass.isDigit_iff]
    omega

/- A digit starts nothing but a number. -/
theorem isDigit_cases
    (h : isDigit c = true) :
    isBlank c = false ∧ punctuation? c = none ∧ c ≠ '\'' := by
  have hNumber : isNumberChar c = true := by
    rw [isNumberChar, h]
    rfl
  refine ⟨CharClass.isBlank_of_isDigit h, ?_, ?_⟩
  · cases hMark : punctuation? c with
    | none => rfl
    | some l =>
        rw [(breaks_of_punctuation? hMark).number] at hNumber
        cases hNumber
  · rintro rfl
    cases h

/- A mark is a lexeme whatever follows it. -/
theorem next_punctuation
    {l : Lexeme}
    (h : punctuation? c = some l) :
    (Scan.mk size (c :: after)).next =
      (.ok l, ⟨size, after⟩) := by
  have hVisible : isBlank c = false := by
    rw [← Bool.not_eq_true]
    intro hBlank
    unfold punctuation? at h
    split at h <;>
      first
      | exact CharClass.ne_of_isBlank hBlank (by decide) rfl
      | cases h
  rw [next_cons hVisible]
  simp only [word, h, withRest]

/-
  A string ends with its closing quote, where no other
  quote follows it.
-/
theorem next_string
    (content : List Char)
    (hAfter : EndsWord after) :
    (Scan.mk size
        ('\'' :: (Lexeme.doubled content ++
          '\'' :: after))).next =
      (.ok (.text (Utf8.encode content)), ⟨size, after⟩) := by
  have hNoQuote : after.head? ≠ some '\'' := by
    intro hHead
    exact (hAfter '\'' hHead).quote rfl
  have hQuoted := quoted?_doubled content hNoQuote
  rw [next_cons (CharClass.isBlank_eq_false (by decide))]
  simp [word, punctuation?, hQuoted, withRest]

/- A number takes all its characters where a break follows. -/
theorem next_number
    (hFirst : isDigit c = true)
    (hOthers : cs.all isNumberChar = true)
    (hAfter : EndsWord after) :
    (Scan.mk size (c :: (cs ++ after))).next =
      (.ok (.number (String.ofList (c :: cs))),
        ⟨size, after⟩) := by
  rcases isDigit_cases hFirst with ⟨hVisible, hMark, hQuote⟩
  have hSpan := hAfter.span (fun _ h => h.number) hOthers
  rw [next_cons hVisible]
  simp only [word, hMark, hQuote, hFirst, hSpan.1, hSpan.2,
    if_true, if_false, withRest]

/- A name takes all its characters where a break follows. -/
theorem next_identifier
    (hFirst : isNameStart c = true)
    (hOthers : cs.all isNameChar = true)
    (hAfter : EndsWord after) :
    (Scan.mk size (c :: (cs ++ after))).next =
      (.ok (.identifier (String.ofList (c :: cs))),
        ⟨size, after⟩) := by
  rcases isNameStart_cases hFirst with
    ⟨hVisible, hMark, hQuote, hDigit⟩
  have hSpan := hAfter.span (fun _ h => h.name) hOthers
  rw [next_cons hVisible]
  simp only [word, hMark, hQuote, hDigit, hFirst, hSpan.1,
    hSpan.2, if_true, if_false, Bool.false_eq_true, withRest]

end Scan

------------------------------------------------------------
-- All Lexemes
------------------------------------------------------------

namespace Lexeme

/- A lexeme that more characters could go on with. -/
def isWord : Lexeme → Bool
  | identifier _ | number _ | text _ => true
  | minus | leftParen | rightParen | comma | eof => false

/- No two words stand side by side. -/
def Apart
    (ls : List Lexeme) : Prop :=
  ls.IsChain fun l m => l.isWord = true → m.isWord = false

variable {l : Lexeme}
variable {ls : List Lexeme}
variable {cs spelling after : List Char}

/- One step of the scan takes a spelling off the text. -/
theorem IsSpelled.next
    (h : l.IsSpelled spelling)
    (size : Nat)
    (hEnd : l.isWord = true → Scan.EndsWord after) :
    (Scan.mk size (spelling ++ after)).next =
      (.ok l, ⟨size, after⟩) := by
  cases h with
  | punctuation mark => exact Scan.next_punctuation mark
  | text content =>
      simpa using Scan.next_string content (hEnd rfl)
  | number first others =>
      exact Scan.next_number first others (hEnd rfl)
  | identifier first others =>
      exact Scan.next_identifier first others (hEnd rfl)

/- A lexeme that is no word starts with what breaks words. -/
theorem IsSpelled.endsWord
    (h : l.IsSpelled spelling)
    (hMark : l.isWord = false) :
    Scan.EndsWord (spelling ++ after) := by
  cases h with
  | punctuation mark =>
      intro c hHead
      cases hHead
      exact Scan.breaks_of_punctuation? mark
  | text content => cases hMark
  | number first others => cases hMark
  | identifier first others => cases hMark

/- White space keeps what ends a word. -/
theorem endsWord_append
    {gap : List Char}
    (hBlank : gap.all isBlank = true)
    (hAfter : Scan.EndsWord after) :
    Scan.EndsWord (gap ++ after) := by
  cases gap with
  | nil => exact hAfter
  | cons c gap =>
      intro d hHead
      cases hHead
      rw [List.all_cons, Bool.and_eq_true] at hBlank
      exact Scan.breaks_of_isBlank hBlank.1

/- A word ends before lexemes that do not go on with it. -/
theorem Spell.endsWord
    (h : Spell ls cs)
    (hFirst : ∀ m, ls.head? = some m → m.isWord = false) :
    Scan.EndsWord cs := by
  cases h with
  | eof blank => exact Scan.endsWord_of_blank blank
  | cons blank spelled others =>
      exact
        endsWord_append blank (spelled.endsWord (hFirst _ rfl))

/- A run of the scan: lexemes apart are read as spelled. -/
theorem ofScan_of_spell
    (h : Spell ls cs)
    (hApart : Apart ls)
    (size : Nat) :
    ofScan ⟨size, cs⟩ = .ok ls := by
  induction h with
  | eof blank => exact ofScan_of_end (Scan.next_of_blank blank)
  | @cons l ls gap spelling rest blank spelled others ih =>
      have hEof : l ≠ .eof := by
        rintro rfl
        exact not_isSpelled_eof _ spelled
      -- What follows a word is a mark or the end, which
      -- are told from it by their first character.
      have hEnd : l.isWord = true → Scan.EndsWord rest := by
        intro hWord
        apply others.endsWord
        intro m hHead
        exact
          (List.isChain_cons.mp hApart).1 m hHead hWord
      have hNext :
          (Scan.mk size (gap ++ (spelling ++ rest))).next =
            (.ok l, ⟨size, rest⟩) := by
        rw [Scan.next_append_of_blank blank]
        exact spelled.next size hEnd
      exact
        ofScan_of_next hNext hEof
          (ih (List.isChain_cons.mp hApart).2)

/- A text is split into the lexemes that it is spelled by. -/
theorem ofText_of_spell
    (h : Spell ls cs)
    (hApart : Apart ls) :
    ofText cs = .ok ls :=
  ofScan_of_spell h hApart cs.length

end Lexeme

end PartitionPruning
