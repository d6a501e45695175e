import PartitionPruning.Proofs.Expr.Parsing

/-
  Texts that read as literals.

  The first character of a text tells which literal it can
  be, and what the rest of it must look like.

  Main declarations:
    * `Expr.parse_quote`
    * `Expr.parse_digit`
    * `Expr.parse_minus`
    * `Expr.parse_string`
    * `Expr.parse_negative`
-/

namespace PartitionPruning

open CharClass (isBlank isDigit)

namespace Expr

variable {limit : Nat}
variable {e : Expr}
variable {c : Char}
variable {cs : List Char}

------------------------------------------------------------
-- What Literals Look Like
------------------------------------------------------------

/- There is no expression without a lexeme. -/
theorem parse_nil :
    parse limit [] ≠ .ok e := by
  intro h
  rcases (parse_eq_ok_iff.mp h).1 with ⟨ls, hPhrase, hSpell⟩
  generalize hText : ([] : List Char) = cs at hSpell
  generalize hAll : ls ++ [.eof] = all at hSpell
  cases hSpell with
  | eof blank =>
      have hNone : ls = [] := by simpa using hAll
      subst hNone
      cases hPhrase
  | cons blank spelled others =>
      have hParts := List.append_eq_nil_iff.mp hText.symm
      have hSpelling := List.append_eq_nil_iff.mp hParts.2
      rw [hSpelling.1] at spelled
      cases spelled

/- The first lexeme of a text that is read as an expression. -/
theorem exists_first_of_parse
    (h : parse limit (c :: cs) = .ok e)
    (hFirst : isBlank c = false) :
    ∃ ls l others spelling rest, Phrase e ls ∧
      ls ++ [.eof] = l :: others ∧
      l.IsSpelled (c :: spelling) ∧ cs = spelling ++ rest ∧
      Lexeme.Spell others rest := by
  rcases (parse_eq_ok_iff.mp h).1 with ⟨ls, hPhrase, hSpell⟩
  rcases hSpell.exists_first hFirst with
    ⟨l, others, spelling, rest, hEq, hSpelled, hText, hRest⟩
  exact
    ⟨ls, l, others, spelling, rest, hPhrase, hEq, hSpelled,
      hText, hRest⟩

/- A text from a quote on is a string and white space. -/
theorem parse_quote
    (h : parse limit ('\'' :: cs) = .ok e) :
    ∃ content after, after.all isBlank = true ∧
      cs = Lexeme.doubled content ++ '\'' :: after ∧
      e = .text (Utf8.encode content) := by
  rcases exists_first_of_parse h
      (CharClass.isBlank_eq_false (by decide)) with
    ⟨ls, l, others, spelling, after, hPhrase, hEq, hSpelled,
      rfl, hRest⟩
  rcases hSpelled.of_quote with ⟨content, rfl, rfl⟩
  cases hPhrase with
  | text bytes =>
      cases hEq
      exact
        ⟨content, after, hRest.all_isBlank rfl, by simp, rfl⟩
  | _ => cases hEq

/- A text from a digit on is digits and white space. -/
theorem parse_digit
    (h : parse limit (c :: cs) = .ok e)
    (hFirst : isDigit c = true) :
    ∃ digits after v, after.all isBlank = true ∧
      cs = digits ++ after ∧
      Numeral.int64? (c :: digits) = some v ∧ e = .int v := by
  rcases exists_first_of_parse h
      (CharClass.isBlank_of_isDigit hFirst) with
    ⟨ls, l, others, spelling, after, hPhrase, hEq, hSpelled,
      rfl, hRest⟩
  have hNumber := hSpelled.of_digit hFirst
  subst hNumber
  cases hPhrase with
  | @natural _ n v number value =>
      cases hEq
      rw [String.toList_ofList] at number
      exact
        ⟨spelling, after, v, hRest.all_isBlank rfl, rfl,
          (Numeral.int64?_digit_eq_some_iff hFirst).mpr
            ⟨n, number, value⟩, rfl⟩
  | _ => cases hEq

/-
  A text from a minus on is digits with white space before
  and after them.
-/
theorem parse_minus
    (h : parse limit ('-' :: cs) = .ok e) :
    ∃ gap digits after v, gap.all isBlank = true ∧
      after.all isBlank = true ∧
      cs = gap ++ (digits ++ after) ∧
      Numeral.int64? ('-' :: digits) = some v ∧
      e = .int v := by
  rcases exists_first_of_parse h
      (CharClass.isBlank_eq_false (by decide)) with
    ⟨ls, l, others, spelling, after, hPhrase, hEq, hSpelled,
      rfl, hRest⟩
  rcases hSpelled.of_minus with ⟨rfl, rfl⟩
  cases hPhrase with
  | @negative digits n v number value =>
      cases hEq
      cases hRest with
      | @cons _ _ gap spelling rest blank spelled tail =>
          rw [spelled.of_number] at number
          rcases Numeral.natural?_eq_some_iff.mp number with
            ⟨hNe, hDigits, rfl⟩
          exact
            ⟨gap, spelling, rest, v, blank,
              tail.all_isBlank rfl, rfl,
              Numeral.int64?_minus_eq_some_iff.mpr
                ⟨hNe, hDigits, value⟩, rfl⟩
  | _ => cases hEq

/- No text from a plus or a point on is an expression. -/
theorem parse_sign
    (hFirst : c = '+' ∨ c = '.') :
    parse limit (c :: cs) ≠ .ok e := by
  intro h
  have hBlank : isBlank c = false := by
    rcases hFirst with rfl | rfl <;>
      exact CharClass.isBlank_eq_false (by decide)
  rcases exists_first_of_parse h hBlank with
    ⟨_, _, _, _, _, _, _, hSpelled, _⟩
  exact Lexeme.not_isSpelled_of_sign hFirst hSpelled

------------------------------------------------------------
-- Literals In White Space
------------------------------------------------------------

variable {gap digits after : List Char}

/- A string and white space are an expression. -/
theorem parse_string
    (limit : Nat)
    (content : List Char)
    (hAfter : after.all isBlank = true) :
    parse limit
        ('\'' :: (Lexeme.doubled content ++ '\'' :: after)) =
      .ok (.text (Utf8.encode content)) := by
  have hSpell :
      Lexeme.Spell [.text (Utf8.encode content), .eof]
        ([] ++
          ('\'' :: (Lexeme.doubled content ++ ['\'']) ++
            after)) :=
    .cons rfl (.text content) (.eof hAfter)
  have hText :
      IsSpelled (.text (Utf8.encode content))
        ('\'' :: (Lexeme.doubled content ++ '\'' :: after)) :=
    ⟨_, .text _, by simpa using hSpell⟩
  exact parse_eq_ok_iff.mpr ⟨hText, Nat.zero_le limit⟩

/- A minus and digits are an expression, white space aside. -/
theorem parse_negative
    {v : Int64}
    (limit : Nat)
    (hGap : gap.all isBlank = true)
    (hAfter : after.all isBlank = true)
    (hValue : Numeral.int64? ('-' :: digits) = some v) :
    parse limit ('-' :: (gap ++ (digits ++ after))) =
      .ok (.int v) := by
  rcases Numeral.int64?_minus_eq_some_iff.mp hValue with
    ⟨hNe, hDigits, hEq⟩
  have hNumber :
      Numeral.natural? digits = some (Numeral.value digits) :=
    Numeral.natural?_eq_some_iff.mpr ⟨hNe, hDigits, rfl⟩
  have hMinus :
      Lexeme.Spell [.minus, .number (String.ofList digits), .eof]
        ([] ++ (['-'] ++ (gap ++ (digits ++ after)))) :=
    .cons rfl (.punctuation rfl)
      (.cons hGap (Lexeme.isSpelled_number hNumber)
        (.eof hAfter))
  have hText :
      IsSpelled (.int v)
        ('-' :: (gap ++ (digits ++ after))) :=
    ⟨_, .negative (by simpa using hNumber) hEq, hMinus⟩
  exact parse_eq_ok_iff.mpr ⟨hText, Nat.zero_le limit⟩

end Expr

end PartitionPruning
