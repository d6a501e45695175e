import PartitionPruning.Proofs.Expr.Parsing

/-
  Writing expressions, and reading back what is written.

  Texts are written between quotes with the quotes in them
  doubled, integers in decimal, and functions by their names
  in upper case.  An expression whose texts are UTF-8 and
  whose columns are names spells its writing, so that it is
  read back.

  Key definitions include:
    * `Scan.IsName`
    * `Expr.written`
    * `Expr.IsWritable`
    * `Expr.lexemesOfInt`

  Main declarations:
    * `Func.isName_name`
    * `Expr.IsWritable.spell_written`
    * `Expr.parse_exact`
-/

namespace PartitionPruning

------------------------------------------------------------
-- Names
------------------------------------------------------------

namespace Scan

/- A name that is scanned as one identifier. -/
def IsName
    (name : String) : Prop :=
  ∃ c cs, name.toList = c :: cs ∧ isNameStart c = true ∧
    cs.all isNameChar = true

/- The letters `A` to `Z` and `a` to `z` and the underscore. -/
def isLatin
    (c : Char) : Bool :=
  decide (0x41 ≤ c.toNat ∧ c.toNat ≤ 0x5A) ||
    decide (0x61 ≤ c.toNat ∧ c.toNat ≤ 0x7A) || c == '_'

/- Latin letters and the underscore can start a name. -/
theorem isNameStart_of_isLatin
    {c : Char}
    (h : isLatin c = true) :
    isNameStart c = true := by
  unfold isLatin at h
  unfold isNameStart
  rcases Bool.or_eq_true_iff.mp h with hLetter | hLine
  · rw [Bool.or_eq_true_iff, decide_eq_true_iff,
      decide_eq_true_iff] at hLetter
    rw [CharClass.isAlphabetic_of_latin hLetter]
    rfl
  · rw [hLine, Bool.or_true]

/- Any Latin letters, one at least, are a name. -/
theorem isName_of_latin
    {name : String}
    (hNe : name.toList ≠ [])
    (h : name.toList.all isLatin = true) :
    IsName name := by
  cases hChars : name.toList with
  | nil => exact absurd hChars hNe
  | cons c cs =>
      rw [hChars, List.all_cons, Bool.and_eq_true] at h
      refine ⟨c, cs, hChars, isNameStart_of_isLatin h.1, ?_⟩
      rw [List.all_eq_true] at h ⊢
      intro d hMember
      exact
        isNameChar_of_isNameStart
          (isNameStart_of_isLatin (h.2 d hMember))

end Scan

namespace Func

/- Every function is called by a name that is read back. -/
theorem isName_name
    (f : Func) :
    Scan.IsName f.name := by
  cases f <;> exact Scan.isName_of_latin (by decide) rfl

/- The names of functions are in upper case. -/
theorem upper_name
    (f : Func) :
    CharClass.upper f.name = f.name := by
  cases f <;> decide

end Func

theorem Lexeme.isSpelled_identifier
    {name : String}
    (h : Scan.IsName name) :
    IsSpelled (.identifier name) name.toList := by
  rcases h with ⟨c, cs, hChars, hFirst, hOthers⟩
  have hName : name = String.ofList (c :: cs) := by
    rw [← hChars, String.ofList_toList]
  rw [hChars, hName]
  exact .identifier hFirst hOthers

namespace Expr

------------------------------------------------------------
-- Writing
------------------------------------------------------------

mutual

/- An expression without white space. -/
def written : Expr → List Char
  | int v => Numeral.ofInt v.toInt
  | text bytes =>
      '\'' ::
        (Lexeme.doubled ((Utf8.decode? bytes).getD []) ++
          ['\''])
  | column name => name.toList
  | call f args =>
      f.name.toList ++ '(' :: (writtenArgs args ++ [')'])

/- Arguments with commas between them. -/
def writtenArgs : List Expr → List Char
  | [] => []
  | [e] => e.written
  | e :: d :: es => e.written ++ ',' :: writtenArgs (d :: es)

end

mutual

/- Texts are UTF-8 and columns are names. -/
def IsWritable : Expr → Prop
  | int _ => True
  | text bytes => ∃ cs, bytes = Utf8.encode cs
  | column name => Scan.IsName name
  | call _ args => AreWritable args

def AreWritable : List Expr → Prop
  | [] => True
  | e :: es => e.IsWritable ∧ AreWritable es

end

open Lexeme (Spell)

variable {ms : List Lexeme}
variable {after : List Char}

/- The lexemes of an integer in decimal. -/
def lexemesOfInt
    (v : Int64) : List Lexeme :=
  let digits := String.ofList (Numeral.digits v.toInt.natAbs)
  if v.toInt < 0 then [.minus, .number digits]
  else [.number digits]

/-
  The lexemes of an integer, with a minus or without, are
  a phrase for it.
-/
theorem phrase_lexemesOfInt
    (v : Int64) :
    Phrase (.int v) (lexemesOfInt v) := by
  have hNumber :
      Numeral.natural?
          (String.ofList
            (Numeral.digits v.toInt.natAbs)).toList =
        some v.toInt.natAbs := by
    rw [String.toList_ofList]
    exact Numeral.natural?_digits v.toInt.natAbs
  unfold lexemesOfInt
  by_cases hSign : v.toInt < 0
  · rw [if_pos hSign]
    exact .negative hNumber (by omega)
  · rw [if_neg hSign]
    exact .natural hNumber (by omega)

/- An integer spells its writing. -/
theorem spell_ofInt
    (v : Int64)
    (hAfter : Spell ms after) :
    Spell (lexemesOfInt v ++ ms)
      (Numeral.ofInt v.toInt ++ after) := by
  have hDigits :=
    hAfter.adjoin
      (Lexeme.isSpelled_number
        (Numeral.natural?_digits v.toInt.natAbs))
  unfold lexemesOfInt Numeral.ofInt
  by_cases hSign : v.toInt < 0
  · rw [if_pos hSign, if_pos hSign]
    exact hDigits.adjoin (.punctuation (c := '-') rfl)
  · rw [if_neg hSign, if_neg hSign]
    exact hDigits

mutual

/- What is written before lexemes spells a phrase. -/
theorem IsWritable.spell_written
    {ms : List Lexeme}
    {after : List Char}
    {e : Expr}
    (h : e.IsWritable)
    (hAfter : Spell ms after) :
    ∃ ls, Phrase e ls ∧
      Spell (ls ++ ms) (e.written ++ after) := by
  cases e with
  | int v =>
      exact ⟨_, phrase_lexemesOfInt v, spell_ofInt v hAfter⟩
  | text bytes =>
      rcases h with ⟨cs, rfl⟩
      have hString := hAfter.adjoin (.text cs)
      exact ⟨_, .text _, by simpa [written] using hString⟩
  | column name =>
      have hName :=
        hAfter.adjoin (Lexeme.isSpelled_identifier h)
      exact ⟨_, .column name, hName⟩
  | call f args =>
      have hArgs : AreWritable args := h
      have hClose := hAfter.adjoin (.punctuation (c := ')') rfl)
      rcases hArgs.spell_writtenArgs hClose with
        ⟨inner, hArguments, hInner⟩
      have hOpen := hInner.adjoin (.punctuation (c := '(') rfl)
      have hCall :=
        hOpen.adjoin (Lexeme.isSpelled_identifier f.isName_name)
      refine ⟨_, .call f.upper_name hArguments, ?_⟩
      simpa [written] using hCall

/- Written arguments spell a phrase for each of them. -/
theorem AreWritable.spell_writtenArgs
    {ms : List Lexeme}
    {after : List Char}
    {es : List Expr}
    (h : AreWritable es)
    (hAfter : Spell ms after) :
    ∃ ls, Arguments es ls ∧
      Spell (ls ++ ms) (writtenArgs es ++ after) := by
  match es, h with
  | [], _ => exact ⟨[], .none, hAfter⟩
  | [e], h =>
      rcases h.1.spell_written hAfter with
        ⟨ls, hPhrase, hSpell⟩
      exact ⟨ls, .last hPhrase, hSpell⟩
  | e :: d :: es, h =>
      rcases AreWritable.spell_writtenArgs h.2 hAfter with
        ⟨others, hArguments, hOthers⟩
      have hComma := hOthers.adjoin (.punctuation (c := ',') rfl)
      rcases h.1.spell_written hComma with
        ⟨first, hPhrase, hSpell⟩
      refine ⟨_, .more hPhrase hArguments, ?_⟩
      simpa [writtenArgs] using hSpell

end

/- What is written for an expression is a text of it. -/
theorem IsWritable.isSpelled
    {e : Expr}
    (h : e.IsWritable) :
    e.IsSpelled e.written := by
  have hEnd : Spell [.eof] [] := .eof rfl
  rcases h.spell_written hEnd with ⟨ls, hPhrase, hSpell⟩
  rw [List.append_nil] at hSpell
  exact ⟨ls, hPhrase, hSpell⟩

/-
  A text is read as exactly the expressions that it spells
  and whose calls are not nested too deep.  Every expression
  with texts of UTF-8 and with names as columns is read back
  from its writing, unless it is nested too deep.
-/
theorem parse_exact
    (limit : Nat) :
    (∀ cs e,
      parse limit cs = .ok e ↔
        e.IsSpelled cs ∧ e.depth ≤ limit) ∧
      ∀ e, e.IsWritable →
        (parse limit e.written = .ok e ↔ e.depth ≤ limit) := by
  refine ⟨fun _ _ => parse_eq_ok_iff, ?_⟩
  intro e hWritable
  rw [parse_eq_ok_iff]
  exact and_iff_right hWritable.isSpelled

/- The least integer, a quote and calls in a call. -/
def nested : Expr :=
  .call .concat
    [.int Int64.minValue, .text (Utf8.encode ['\'', 'é']),
      .column "user_id",
      .call .nvl [.call .sysDate [], .int 0]]

theorem parse_nested :
    nested.IsWritable ∧ nested.depth = 3 ∧
      parse 3
          ("CONCAT(-9223372036854775808,'''é',user_id," ++
            "NVL(SYSDATE(),0))").toList =
        .ok nested := by
  have hName : Scan.IsName "user_id" :=
    Scan.isName_of_latin (by decide) rfl
  have hWritable : nested.IsWritable :=
    ⟨trivial, ⟨_, rfl⟩, hName, ⟨trivial, trivial, trivial⟩,
      trivial⟩
  have hDepth : nested.depth = 3 := by decide
  have hWritten :
      nested.written =
        ("CONCAT(-9223372036854775808,'''é',user_id," ++
          "NVL(SYSDATE(),0))").toList := by
    simp only [nested, written, writtenArgs,
      Utf8.decode?_encode]
    decide
  refine ⟨hWritable, hDepth, ?_⟩
  rw [← hWritten]
  exact ((parse_exact 3).2 nested hWritable).mpr (by omega)

end Expr

end PartitionPruning
