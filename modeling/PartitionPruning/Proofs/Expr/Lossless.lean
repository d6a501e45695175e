import PartitionPruning.Proofs.Expr.Cursor

/-
  Nothing of a text is lost in splitting it.

  Every lexeme but the end takes at least one character, so
  that a run over a text ends and has no more lexemes than
  the text has characters, and the end.  The characters that
  no lexeme takes are white space.

  Key definitions include:
    * `Lexeme.spelling?`
    * `Lexeme.Interleaves`

  Main declarations:
    * `Lexeme.IsSpelled.spelling?_eq`
    * `Lexeme.Spell.exists_words`
    * `Cursor.tokenize_lossless`
-/

namespace PartitionPruning

open CharClass (isBlank)

namespace Lexeme

variable {l : Lexeme}
variable {ls words : List Lexeme}
variable {cs gap spelling rest : List Char}

------------------------------------------------------------
-- Spellings
------------------------------------------------------------

/-
  How a lexeme is written.  The end is not written, and no
  text has bytes that are not text.
-/
def spelling? : Lexeme → Option (List Char)
  | identifier name => some name.toList
  | number digits => some digits.toList
  | text bytes =>
      (Utf8.decode? bytes).map fun content =>
        '\'' :: (doubled content ++ ['\''])
  | minus => some ['-']
  | leftParen => some ['(']
  | rightParen => some [')']
  | comma => some [',']
  | eof => none

/- A lexeme is written in one way only. -/
theorem IsSpelled.spelling?_eq
    (h : l.IsSpelled cs) :
    l.spelling? = some cs := by
  cases h with
  | punctuation mark =>
      unfold Scan.punctuation? at mark
      split at mark <;> cases mark <;> rfl
  | text content =>
      rw [spelling?, Utf8.decode?_encode]
      rfl
  | number first others =>
      exact congrArg some String.toList_ofList
  | identifier first others =>
      exact congrArg some String.toList_ofList

/- Every lexeme but the end takes a character at least. -/
theorem IsSpelled.length_pos
    (h : l.IsSpelled cs) :
    0 < cs.length := by
  cases h <;> exact Nat.zero_lt_succ _

------------------------------------------------------------
-- Texts
------------------------------------------------------------

/-
  A text is the spellings of lexemes in their order, with
  white space before each and last.
-/
def Interleaves
    (words : List Lexeme)
    (cs : List Char) : Prop :=
  ∃ (pieces : List (List Char × List Char))
      (last : List Char),
    words.map spelling? =
        (pieces.map fun piece => some piece.2) ∧
      (∀ piece ∈ pieces, piece.1.all isBlank = true) ∧
      last.all isBlank = true ∧
      cs =
        (pieces.flatMap fun piece => piece.1 ++ piece.2) ++ last

/- White space alone is a text without words. -/
theorem interleaves_nil
    (h : cs.all isBlank = true) :
    Interleaves [] cs :=
  ⟨[], cs, rfl, List.forall_mem_nil _, h, rfl⟩

/- A text grows by a word in front, behind white space. -/
theorem Interleaves.cons
    (h : Interleaves words rest)
    (hBlank : gap.all isBlank = true)
    (hSpelled : l.IsSpelled spelling) :
    Interleaves (l :: words) (gap ++ (spelling ++ rest)) := by
  rcases h with ⟨pieces, last, hWords, hGaps, hLast, rfl⟩
  refine ⟨(gap, spelling) :: pieces, last, ?_, ?_, hLast, ?_⟩
  · rw [List.map_cons, List.map_cons, hWords,
      hSpelled.spelling?_eq]
  · intro piece hMember
    rcases List.mem_cons.mp hMember with rfl | hOthers
    · exact hBlank
    · exact hGaps piece hOthers
  · simp only [List.flatMap_cons, List.append_assoc]

/- The end is the last lexeme of a text and no other. -/
theorem Spell.exists_words
    (h : Spell ls cs) :
    ∃ words, ls = words ++ [.eof] ∧ .eof ∉ words ∧
      words.length ≤ cs.length ∧ Interleaves words cs := by
  induction h with
  | eof blank =>
      exact
        ⟨[], rfl, List.not_mem_nil, Nat.zero_le _,
          interleaves_nil blank⟩
  | @cons l ls gap spelling rest blank spelled others ih =>
      rcases ih with ⟨words, rfl, hEof, hCount, hText⟩
      refine
        ⟨l :: words, rfl, ?_, ?_, hText.cons blank spelled⟩
      · intro hMember
        rcases List.mem_cons.mp hMember with rfl | hOthers
        · exact not_isSpelled_eof spelling spelled
        · exact hEof hOthers
      · have hFirst := spelled.length_pos
        simp only [List.length_cons, List.length_append]
        omega

end Lexeme

------------------------------------------------------------
-- Runs
------------------------------------------------------------

namespace Cursor

/-
  A lexeme other than the end advances the place in a text.
  A run over a text ends, and where it gives lexemes, these
  are no more than the characters and the end, which stands
  last and only there, and the text is their spellings with
  white space between them.
-/
theorem tokenize_lossless :
    (∀ p l q,
        next p = (.ok l, q) → l ≠ .eof →
          q.input = p.input ∧ p.position < q.position ∧
            q.position ≤ p.input.length) ∧
      ∀ cs,
        (∀ rounds, cs.length < rounds →
          (ofText cs).tokenize rounds =
            some (Lexeme.ofText cs)) ∧
        ∀ ls, Lexeme.ofText cs = .ok ls →
          ∃ words, ls = words ++ [.eof] ∧ .eof ∉ words ∧
            ls.length ≤ cs.length + 1 ∧
            Lexeme.Interleaves words cs := by
  refine ⟨?_, fun cs => ⟨?_, ?_⟩⟩
  · intro p l q hNext hEof
    exact next_advances hNext hEof
  · intro rounds hRounds
    exact tokenize_eq (inText_ofText cs) hRounds
  · intro ls hText
    rcases (Lexeme.spell_of_ofText hText).exists_words with
      ⟨words, rfl, hEof, hCount, hWords⟩
    refine ⟨words, rfl, hEof, ?_, hWords⟩
    rw [List.length_append, List.length_singleton]
    exact Nat.succ_le_succ hCount

/- A text with white space and a string of one quote. -/
def quotedText : List Char :=
  ['(', '-', '1', ' ', ',', '\'', '\'', '\'', '\'', ')']

/- The lexemes of `quotedText` before its end. -/
def quotedWords : List Lexeme :=
  [.leftParen, .minus, .number (String.ofList ['1']), .comma,
    .text (Utf8.encode ['\'']), .rightParen]

theorem spell_quotedText :
    Lexeme.Spell (quotedWords ++ [.eof]) quotedText := by
  have hBlank : [' '].all isBlank = true := by decide +kernel
  have hDigit : CharClass.isDigit '1' = true := by decide
  have hRight : Lexeme.Spell [.rightParen, .eof] [')'] :=
    .adjoin (.eof List.all_nil) (.punctuation rfl)
  have hQuote := hRight.adjoin (.text ['\''])
  have hComma :
      Lexeme.Spell (.comma :: _) ([' '] ++ ([','] ++ _)) :=
    .cons hBlank (.punctuation rfl) hQuote
  have hNumber := hComma.adjoin (.number hDigit List.all_nil)
  have hMinus : Lexeme.Spell (.minus :: _) (['-'] ++ _) :=
    hNumber.adjoin (.punctuation rfl)
  exact hMinus.adjoin (.punctuation rfl)

theorem tokenize_lossless_quotedText :
    (ofText quotedText).tokenize 11 =
        some (.ok (quotedWords ++ [.eof])) ∧
      (quotedWords ++ [Lexeme.eof]).length ≤ 11 ∧
      ∃ words, quotedWords ++ [Lexeme.eof] = words ++ [.eof] ∧
        Lexeme.Interleaves words quotedText := by
  have hApart :
      Lexeme.Apart (quotedWords ++ [.eof]) := by
    unfold Lexeme.Apart
    decide
  have hText : Lexeme.ofText quotedText = .ok _ :=
    Lexeme.ofText_of_spell spell_quotedText hApart
  have hRun :=
    (tokenize_lossless.2 quotedText).1 11 (by decide)
  rw [hText] at hRun
  rcases (tokenize_lossless.2 quotedText).2 _ hText with
    ⟨words, hWords, _, hCount, hCovers⟩
  exact ⟨hRun, hCount, words, hWords, hCovers⟩

end Cursor

end PartitionPruning
