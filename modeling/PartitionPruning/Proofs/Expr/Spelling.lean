import PartitionPruning.Expr.Reading
import PartitionPruning.Proofs.Steps
import PartitionPruning.Proofs.Text.Digits

/-
  How texts spell lexemes.

  A text that splits into lexemes is made of their spellings
  with white space around them.

  Key definitions include:
    * `Lexeme.doubled`
    * `Lexeme.IsSpelled`
    * `Lexeme.Spell`

  Main declarations:
    * `Scan.next_eq_ok_cases`
    * `Lexeme.spell_of_ofText`
-/

namespace PartitionPruning

open CharClass (isBlank isDigit)

------------------------------------------------------------
-- Spellings
------------------------------------------------------------

namespace Lexeme

/- A text with every quote in it written twice. -/
def doubled
    (cs : List Char) : List Char :=
  cs.flatMap fun c => if c = '\'' then ['\'', '\''] else [c]

/- The characters that a lexeme is written with. -/
inductive IsSpelled : Lexeme → List Char → Prop where
  | punctuation
      {c : Char}
      {l : Lexeme}
      (mark : Scan.punctuation? c = some l) :
      IsSpelled l [c]
  | text
      (content : List Char) :
      IsSpelled (.text (Utf8.encode content))
        ('\'' :: (doubled content ++ ['\'']))
  | number
      {c : Char}
      {cs : List Char}
      (first : isDigit c = true)
      (others : cs.all Scan.isNumberChar = true) :
      IsSpelled (.number (String.ofList (c :: cs))) (c :: cs)
  | identifier
      {c : Char}
      {cs : List Char}
      (first : Scan.isNameStart c = true)
      (others : cs.all Scan.isNameChar = true) :
      IsSpelled (.identifier (String.ofList (c :: cs)))
        (c :: cs)

/- Digits are written as they are. -/
theorem isSpelled_number
    {ds : List Char}
    {n : Nat}
    (h : Numeral.natural? ds = some n) :
    IsSpelled (.number (String.ofList ds)) ds := by
  rcases Numeral.natural?_eq_some_iff.mp h with
    ⟨hNe, hDigits, _⟩
  cases ds with
  | nil => exact absurd rfl hNe
  | cons d ds =>
      rw [List.all_cons, Bool.and_eq_true] at hDigits
      refine .number hDigits.1 (List.all_eq_true.mpr ?_)
      intro c hMember
      rw [Scan.isNumberChar,
        List.all_eq_true.mp hDigits.2 c hMember]
      rfl

/- The end of a text is not written. -/
theorem not_isSpelled_eof
    (cs : List Char) :
    ¬ IsSpelled .eof cs := by
  intro h
  cases h with
  | punctuation mark =>
      unfold Scan.punctuation? at mark
      split at mark <;> cases mark

end Lexeme

------------------------------------------------------------
-- Scanning
------------------------------------------------------------

namespace Scan

open Lexeme (doubled)

/- The content of a string stands doubled before its end. -/
theorem quoted?_eq_some
    {cs content after : List Char}
    (h : quoted? cs = some (content, after)) :
    cs = doubled content ++ '\'' :: after := by
  fun_induction quoted? cs generalizing content with
  | case1 => cases h
  | case2 rest ih =>
      rcases Option.map_eq_some_iff.mp h with
        ⟨⟨inner, after'⟩, hRest, hEq⟩
      cases hEq
      rw [ih hRest]
      rfl
  | case3 rest _ =>
      cases h
      rfl
  | case4 c rest _ hNotQuote ih =>
      rcases Option.map_eq_some_iff.mp h with
        ⟨⟨inner, after'⟩, hRest, hEq⟩
      cases hEq
      rw [ih hRest]
      simp [doubled, hNotQuote]

/- A lexeme takes its spelling off the text. -/
theorem word_eq_ok_cases
    {s s' : Scan}
    {c : Char}
    {cs : List Char}
    {l : Lexeme}
    (h : s.word c cs = (.ok l, s')) :
    ∃ spelling, l.IsSpelled spelling ∧
      c :: cs = spelling ++ s'.rest := by
  unfold word at h
  split at h
  · next mark hMark =>
      cases h
      exact ⟨[c], .punctuation hMark, rfl⟩
  · split at h
    · next hQuote =>
        subst hQuote
        split at h
        · next content after hQuoted =>
            cases h
            refine ⟨_, .text content, ?_⟩
            rw [quoted?_eq_some hQuoted]
            simp [withRest]
        · cases h
    · split at h
      · next hDigit =>
          cases h
          refine
            ⟨_, .number hDigit List.all_takeWhile, ?_⟩
          simp [withRest, List.takeWhile_append_dropWhile]
      · split at h
        · next hName =>
            cases h
            refine
              ⟨_, .identifier hName List.all_takeWhile, ?_⟩
            simp [withRest, List.takeWhile_append_dropWhile]
        · cases h

/-
  One step of the scan: the end after nothing but white
  space, or a lexeme after white space.
-/
theorem next_eq_ok_cases
    {s s' : Scan}
    {l : Lexeme}
    (h : s.next = (.ok l, s')) :
    (l = .eof ∧ s.rest.all isBlank = true) ∨
      ∃ gap spelling, gap.all isBlank = true ∧
        l.IsSpelled spelling ∧
        s.rest = gap ++ (spelling ++ s'.rest) := by
  have hSplit :
      s.rest =
        s.rest.takeWhile isBlank ++ s.rest.dropWhile isBlank :=
    List.takeWhile_append_dropWhile.symm
  unfold next at h
  simp only [withRest] at h
  split at h
  · next hNil =>
      cases h
      left
      refine ⟨rfl, ?_⟩
      rw [hNil, List.append_nil] at hSplit
      rw [hSplit]
      exact List.all_takeWhile
  · next c cs hCons =>
      rcases word_eq_ok_cases h with ⟨spelling, hSpelled, hRest⟩
      right
      refine
        ⟨s.rest.takeWhile isBlank, spelling,
          List.all_takeWhile, hSpelled, ?_⟩
      rw [← hRest, ← hCons]
      exact hSplit

/- White space is passed over. -/
theorem next_append_of_blank
    {size : Nat}
    {gap : List Char}
    (h : gap.all isBlank = true)
    (cs : List Char) :
    (Scan.mk size (gap ++ cs)).next = (Scan.mk size cs).next := by
  unfold next
  simp only [withRest,
    List.dropWhile_append_of_pos (List.all_eq_true.mp h)]

/- A character that is no white space starts a lexeme. -/
theorem next_cons
    {size : Nat}
    {c : Char}
    (h : isBlank c = false)
    (cs : List Char) :
    (Scan.mk size (c :: cs)).next =
      (Scan.mk size (c :: cs)).word c cs := by
  unfold next
  simp only [withRest, List.dropWhile_cons, h,
    Bool.false_eq_true, if_false]

/- Nothing but white space is the end. -/
theorem next_of_blank
    {size : Nat}
    {gap : List Char}
    (h : gap.all isBlank = true) :
    (Scan.mk size gap).next = (.ok .eof, ⟨size, []⟩) := by
  have hNext :
      (Scan.mk size (gap ++ [])).next =
        (Scan.mk size []).next :=
    next_append_of_blank h []
  rw [List.append_nil] at hNext
  exact hNext

/- A string is read back, where no other quote follows it. -/
theorem quoted?_doubled
    {after : List Char}
    (content : List Char)
    (hAfter : after.head? ≠ some '\'') :
    quoted? (doubled content ++ '\'' :: after) =
      some (content, after) := by
  induction content with
  | nil =>
      cases after with
      | nil => rfl
      | cons c cs =>
          have hOther : ¬ c = '\'' := by simpa using hAfter
          simp [doubled, quoted?, hOther]
  | cons c cs ih =>
      by_cases hQuote : c = '\''
      · subst hQuote
        have hTwo :
            doubled ('\'' :: cs) = '\'' :: '\'' :: doubled cs :=
          rfl
        rw [hTwo, List.cons_append, List.cons_append, quoted?,
          ih]
        rfl
      · have hOne : doubled (c :: cs) = c :: doubled cs := by
          simp [doubled, hQuote]
        rw [hOne, List.cons_append, quoted?, ih]
        · simp [hQuote]
        · rintro _ rfl
          exact absurd rfl hQuote

end Scan

------------------------------------------------------------
-- Texts
------------------------------------------------------------

namespace Lexeme

/- A text is lexemes with white space before each and last. -/
inductive Spell : List Lexeme → List Char → Prop where
  | eof
      {gap : List Char}
      (blank : gap.all isBlank = true) :
      Spell [.eof] gap
  | cons
      {l : Lexeme}
      {ls : List Lexeme}
      {gap spelling rest : List Char}
      (blank : gap.all isBlank = true)
      (spelled : l.IsSpelled spelling)
      (others : Spell ls rest) :
      Spell (l :: ls) (gap ++ (spelling ++ rest))

/- A lexeme may be written right before the others. -/
theorem Spell.adjoin
    {l : Lexeme}
    {ls : List Lexeme}
    {spelling rest : List Char}
    (h : Spell ls rest)
    (hFirst : l.IsSpelled spelling) :
    Spell (l :: ls) (spelling ++ rest) :=
  .cons List.all_nil hFirst h

/- A run of the scan: a text is spelled by its lexemes. -/
theorem spell_of_ofScan
    {s : Scan}
    {ls : List Lexeme}
    (h : ofScan s = .ok ls) :
    Spell ls s.rest := by
  fun_induction ofScan s generalizing ls with
  | case1 => cases h
  | case2 s s' hNext =>
      cases h
      rcases Scan.next_eq_ok_cases hNext with
        ⟨_, hBlank⟩ | ⟨gap, spelling, _, hSpelled, _⟩
      · exact .eof hBlank
      · exact absurd hSpelled (not_isSpelled_eof spelling)
  | case3 s l s' hNext hEof ih =>
      rcases Steps.bind_eq_ok_iff.mp h with
        ⟨others, hOthers, hEq⟩
      cases hEq
      rcases Scan.next_eq_ok_cases hNext with
        ⟨hEnd, _⟩ | ⟨gap, spelling, hBlank, hSpelled, hRest⟩
      · exact absurd hEnd hEof
      · rw [hRest]
        exact .cons hBlank hSpelled (ih hOthers)

/- A text is spelled by the lexemes that it splits into. -/
theorem spell_of_ofText
    {cs : List Char}
    {ls : List Lexeme}
    (h : ofText cs = .ok ls) :
    Spell ls cs :=
  spell_of_ofScan h

theorem ofScan_of_end
    {s s' : Scan}
    (h : s.next = (.ok .eof, s')) :
    ofScan s = .ok [.eof] := by
  rw [ofScan]
  split
  · next hNext =>
      rw [h] at hNext
      cases hNext
  · next hNext =>
      rw [h] at hNext
      cases hNext
      rfl

/- A lexeme before the end stands before all others. -/
theorem ofScan_of_next
    {s s' : Scan}
    {l : Lexeme}
    {others : List Lexeme}
    (h : s.next = (.ok l, s'))
    (hEof : l ≠ .eof)
    (hOthers : ofScan s' = .ok others) :
    ofScan s = .ok (l :: others) := by
  rw [ofScan]
  split
  · next hNext =>
      rw [h] at hNext
      cases hNext
  · next hNext =>
      rw [h] at hNext
      cases hNext
      rw [dif_neg hEof, hOthers]
      rfl

/- Nothing but white space stands before the end. -/
theorem Spell.all_isBlank
    {ls : List Lexeme}
    {cs : List Char}
    (h : Spell ls cs)
    (hEnd : Reading.current ls = .eof) :
    cs.all isBlank = true := by
  cases h with
  | eof blank => exact blank
  | cons blank spelled others =>
      cases hEnd
      exact absurd spelled (not_isSpelled_eof _)

/- A text that starts with no white space starts a lexeme. -/
theorem Spell.exists_first
    {ls : List Lexeme}
    {c : Char}
    {cs : List Char}
    (h : Spell ls (c :: cs))
    (hFirst : isBlank c = false) :
    ∃ l others spelling rest, ls = l :: others ∧
      l.IsSpelled (c :: spelling) ∧ cs = spelling ++ rest ∧
      Spell others rest := by
  generalize hText : c :: cs = text at h
  cases h with
  | eof blank =>
      subst hText
      rw [List.all_cons, hFirst] at blank
      cases blank
  | @cons l others gap spelling rest blank spelled tail =>
      cases gap with
      | cons d gap =>
          cases hText
          rw [List.all_cons, hFirst] at blank
          cases blank
      | nil =>
          cases spelling with
          | nil => cases spelled
          | cons d spelling =>
              cases hText
              exact
                ⟨l, others, spelling, rest, rfl, spelled, rfl,
                  tail⟩

------------------------------------------------------------
-- First Characters
------------------------------------------------------------

/- No name starts with a digit or a character before them. -/
theorem isNameStart_eq_false
    {c : Char}
    (h : c.toNat < 0x41) :
    Scan.isNameStart c = false := by
  have hLine : (c == '_') = false := by
    rw [beq_eq_false_iff_ne]
    rintro rfl
    exact absurd h (by decide)
  rw [Scan.isNameStart, CharClass.isAlphabetic_eq_false h,
    hLine]
  rfl

/- Only a string starts with a quote. -/
theorem IsSpelled.of_quote
    {l : Lexeme}
    {cs : List Char}
    (h : l.IsSpelled ('\'' :: cs)) :
    ∃ content, l = .text (Utf8.encode content) ∧
      cs = doubled content ++ ['\''] := by
  cases h with
  | punctuation mark => cases mark
  | text content => exact ⟨content, rfl, rfl⟩
  | number first others => cases first
  | identifier first others =>
      rw [isNameStart_eq_false (by decide)] at first
      cases first

/- Only the minus starts with a minus. -/
theorem IsSpelled.of_minus
    {l : Lexeme}
    {cs : List Char}
    (h : l.IsSpelled ('-' :: cs)) :
    l = .minus ∧ cs = [] := by
  cases h with
  | punctuation mark =>
      cases mark
      exact ⟨rfl, rfl⟩
  | number first others => cases first
  | identifier first others =>
      rw [isNameStart_eq_false (by decide)] at first
      cases first

theorem IsSpelled.of_number
    {digits : String}
    {cs : List Char}
    (h : IsSpelled (.number digits) cs) :
    digits.toList = cs := by
  cases h with
  | punctuation mark =>
      unfold Scan.punctuation? at mark
      split at mark <;> cases mark
  | number first others => exact String.toList_ofList

/- Only a number starts with a digit. -/
theorem IsSpelled.of_digit
    {l : Lexeme}
    {c : Char}
    {cs : List Char}
    (h : l.IsSpelled (c :: cs))
    (hFirst : isDigit c = true) :
    l = .number (String.ofList (c :: cs)) := by
  have hRange := of_decide_eq_true hFirst
  cases h with
  | punctuation mark =>
      unfold Scan.punctuation? at mark
      split at mark <;> first | cases hFirst | cases mark
  | text content => cases hFirst
  | number first others => rfl
  | identifier first others =>
      rw [isNameStart_eq_false (by omega)] at first
      cases first

/- No lexeme starts with a plus or a point. -/
theorem not_isSpelled_of_sign
    {l : Lexeme}
    {c : Char}
    {cs : List Char}
    (hFirst : c = '+' ∨ c = '.') :
    ¬ l.IsSpelled (c :: cs) := by
  intro h
  cases h with
  | punctuation mark => rcases hFirst with rfl | rfl <;> cases mark
  | text content => simp at hFirst
  | number first others =>
      rcases hFirst with rfl | rfl <;> cases first
  | identifier first others =>
      rcases hFirst with rfl | rfl <;>
        (rw [isNameStart_eq_false (by decide)] at first
         cases first)

end Lexeme

end PartitionPruning
