import PartitionPruning.Proofs.Expr.Grammar
import PartitionPruning.Proofs.Expr.Lexing

/-
  Texts that read as an expression.

  A text is read exactly if it spells the lexemes of a
  phrase, with white space anywhere around them, and the
  calls in it are not nested too deep.

  Key definitions include:
    * `Expr.IsSpelled`

  Main declarations:
    * `Expr.Phrase.apart`
    * `Expr.parse_eq_ok_iff`
-/

namespace PartitionPruning

------------------------------------------------------------
-- Words Of Phrases
------------------------------------------------------------

namespace Lexeme

variable {l m : Lexeme}
variable {ls : List Lexeme}

/- A mark may stand before any lexemes. -/
theorem Apart.cons_mark
    (h : Apart ls)
    (hMark : l.isWord = false) :
    Apart (l :: ls) := by
  refine List.isChain_cons.mpr ⟨?_, h⟩
  intro _ _ hWord
  rw [hMark] at hWord
  cases hWord

/- Any lexeme may stand before a mark. -/
theorem Apart.cons
    (h : Apart (m :: ls))
    (hMark : m.isWord = false) :
    Apart (l :: m :: ls) :=
  List.isChain_cons_cons.mpr ⟨fun _ => hMark, h⟩

end Lexeme

namespace Expr

open Lexeme (Apart)

mutual

/- No two words of a phrase stand side by side. -/
theorem Phrase.apart
    {e : Expr}
    {ls : List Lexeme}
    (h : Phrase e ls)
    {m : Lexeme}
    {rest : List Lexeme}
    (hMark : m.isWord = false)
    (hRest : Apart (m :: rest)) :
    Apart (ls ++ m :: rest) := by
  cases h with
  | natural number value => exact hRest.cons hMark
  | negative number value =>
      exact (hRest.cons hMark).cons_mark rfl
  | text bytes => exact hRest.cons hMark
  | column name => exact hRest.cons hMark
  | @call name f args inner known arguments =>
      have hInner :
          Apart (inner ++ .rightParen :: m :: rest) :=
        arguments.apart rfl (hRest.cons_mark rfl)
      have hOpen :
          Apart
            (.leftParen :: (inner ++ .rightParen :: m :: rest)) :=
        hInner.cons_mark rfl
      have hCall := hOpen.cons (l := .identifier name) rfl
      simpa using hCall

/-
  Arguments are separated by commas, so that no word of
  one touches a word of the next.
-/
theorem Arguments.apart
    {es : List Expr}
    {ls : List Lexeme}
    (h : Arguments es ls)
    {m : Lexeme}
    {rest : List Lexeme}
    (hMark : m.isWord = false)
    (hRest : Apart (m :: rest)) :
    Apart (ls ++ m :: rest) := by
  cases h with
  | none => exact hRest
  | last phrase => exact phrase.apart hMark hRest
  | more phrase others =>
      have hOthers := others.apart hMark hRest
      have hPhrase :=
        phrase.apart (m := .comma) rfl (hOthers.cons_mark rfl)
      simpa using hPhrase

end

mutual

/- The end of a text is no part of a phrase. -/
theorem Phrase.eof_not_mem
    {e : Expr}
    {ls : List Lexeme}
    (h : Phrase e ls) :
    .eof ∉ ls := by
  cases h with
  | natural number value => simp
  | negative number value => simp
  | text bytes => simp
  | column name => simp
  | call known arguments => simp [arguments.eof_not_mem]

theorem Arguments.eof_not_mem
    {es : List Expr}
    {ls : List Lexeme}
    (h : Arguments es ls) :
    .eof ∉ ls := by
  cases h with
  | none => simp
  | last phrase => exact phrase.eof_not_mem
  | more phrase others =>
      simp [phrase.eof_not_mem, others.eof_not_mem]

end

end Expr

namespace Lexeme

variable {ls front rest : List Lexeme}
variable {cs : List Char}

/- A number that a text spells starts with a digit. -/
theorem Spell.hasDigits
    (h : Spell ls cs) :
    HasDigits ls := by
  induction h with
  | eof blank =>
      intro digits hMember
      simp at hMember
  | cons blank spelled others ih =>
      intro digits hMember
      rcases List.mem_cons.mp hMember with rfl | hLater
      · cases spelled with
        | punctuation mark =>
            unfold Scan.punctuation? at mark
            split at mark <;> cases mark
        | number first others =>
            exact ⟨_, _, String.toList_ofList, first⟩
      · exact ih digits hLater

/- Only the end itself is left where a text ends. -/
theorem Spell.eq_eof_of_current
    (h : Spell (front ++ rest) cs)
    (hFront : .eof ∉ front)
    (hEnd : Reading.current rest = .eof) :
    rest = [.eof] := by
  induction front generalizing cs with
  | nil =>
      cases h with
      | eof blank => rfl
      | cons blank spelled others =>
          cases hEnd
          exact absurd spelled (not_isSpelled_eof _)
  | cons l front ih =>
      rw [List.mem_cons, not_or] at hFront
      rw [List.cons_append] at h
      generalize hAll : front ++ rest = others at h
      cases h with
      | eof blank => exact absurd rfl hFront.1
      | cons blank spelled tail =>
          rw [← hAll] at tail
          exact ih tail hFront.2

end Lexeme

------------------------------------------------------------
-- Spellings Of Expressions
------------------------------------------------------------

namespace Expr

variable {limit : Nat}
variable {e : Expr}
variable {cs : List Char}

/- A text with the lexemes of an expression and no others. -/
def IsSpelled
    (e : Expr)
    (cs : List Char) : Prop :=
  ∃ ls, Phrase e ls ∧ Lexeme.Spell (ls ++ [.eof]) cs

theorem lexemes_eq_ok_iff
    {ls : List Lexeme} :
    lexemes cs = .ok ls ↔ Lexeme.ofText cs = .ok ls := by
  unfold lexemes
  cases Lexeme.ofText cs <;> simp [Except.mapError]

/-
  A whole reading succeeds exactly on a phrase and the end,
  where its calls are not nested too deep.
-/
theorem whole_eq_ok_iff_phrase
    {ls : List Lexeme}
    (hSpell : Lexeme.Spell ls cs) :
    (Reading.whole limit ls).result = .ok e ↔
      ∃ front, ls = front ++ [.eof] ∧ Phrase e front ∧
        e.depth ≤ limit := by
  have hReading :
      ∀ rest,
        (Reading.expression limit 0 ls).Gives e rest ↔
          ∃ front, ls = front ++ rest ∧ Phrase e front ∧
            0 + e.depth ≤ limit ∧ Reading.EndsBefore e rest :=
    fun rest =>
      Reading.expression_gives_iff_phrase hSpell.hasDigits
        (Nat.zero_le limit) e
  rw [Reading.whole_eq_ok_iff]
  constructor
  · rintro ⟨hResult, hEnd⟩
    rcases (hReading _).mp ⟨hResult, rfl⟩ with
      ⟨front, hSplit, hPhrase, hNested, _⟩
    have hLast :
        (Reading.expression limit 0 ls).rest = [.eof] := by
      rw [hSplit] at hSpell
      exact hSpell.eq_eof_of_current hPhrase.eof_not_mem hEnd
    rw [hLast] at hSplit
    exact ⟨front, hSplit, hPhrase, by omega⟩
  · rintro ⟨front, hSplit, hPhrase, hNested⟩
    have hGives :=
      (hReading [.eof]).mpr
        ⟨front, hSplit, hPhrase, by omega,
          Reading.endsBefore_cons (by simp)⟩
    exact ⟨hGives.1, by rw [hGives.2]; rfl⟩

/-
  A text is read as exactly the expressions it spells that
  are not nested too deep.
-/
theorem parse_eq_ok_iff :
    parse limit cs = .ok e ↔
      e.IsSpelled cs ∧ e.depth ≤ limit := by
  unfold parse
  rw [Steps.bind_eq_ok_iff]
  constructor
  · rintro ⟨ls, hLexemes, hWhole⟩
    have hSpell : Lexeme.Spell ls cs :=
      Lexeme.spell_of_ofText (lexemes_eq_ok_iff.mp hLexemes)
    rcases (whole_eq_ok_iff_phrase hSpell).mp hWhole with
      ⟨front, rfl, hPhrase, hNested⟩
    exact ⟨⟨front, hPhrase, hSpell⟩, hNested⟩
  · rintro ⟨⟨front, hPhrase, hSpell⟩, hNested⟩
    have hApart : Lexeme.Apart (front ++ [.eof]) :=
      hPhrase.apart rfl (List.isChain_singleton _)
    have hText := Lexeme.ofText_of_spell hSpell hApart
    refine ⟨_, lexemes_eq_ok_iff.mpr hText, ?_⟩
    rw [whole_eq_ok_iff_phrase hSpell]
    exact ⟨front, rfl, hPhrase, hNested⟩

end Expr

end PartitionPruning
