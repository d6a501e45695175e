import PartitionPruning.Expr.Error
import PartitionPruning.Text.CharClass

/-
  Splitting expression text into lexemes.

  `Scan.next` reads one lexeme and can be called again after
  every answer: at the end of the text it goes on answering
  `eof`, and a character that starts no lexeme stays where
  it is.  `Lexeme.ofText` calls it until the end.

  Key definitions include:
    * `Scan`
    * `Scan.next`
    * `Scan.next_rest_length_lt`
    * `Lexeme.ofText`
-/

namespace PartitionPruning

------------------------------------------------------------
-- Position In A Text
------------------------------------------------------------

/- The part of a text of `size` characters not yet read. -/
structure Scan where
  size : Nat
  rest : List Char

namespace Scan

/- A text from its start. -/
def ofText
    (cs : List Char) : Scan :=
  ⟨cs.length, cs⟩

/- Characters before the part not yet read. -/
def position
    (s : Scan) : Nat :=
  s.size - s.rest.length

/- The same text with another part not yet read. -/
def withRest
    (s : Scan)
    (rest : List Char) : Scan :=
  ⟨s.size, rest⟩

------------------------------------------------------------
-- Lexemes Of Several Characters
------------------------------------------------------------

/-
  The content of a quoted string whose opening quote has
  been read, and what follows its closing quote.  Two quotes
  stand for one.  There is no content when the text ends
  before the string does.
-/
def quoted? :
    List Char → Option (List Char × List Char)
  | [] => none
  | '\'' :: '\'' :: rest =>
      (quoted? rest).map fun (cs, after) => ('\'' :: cs, after)
  | c :: rest =>
      if c = '\'' then some ([], rest)
      else (quoted? rest).map fun (cs, after) => (c :: cs, after)

/- A character of a number. -/
def isNumberChar
    (c : Char) : Bool :=
  CharClass.isDigit c || c == '.'

/- A character that can start an identifier. -/
def isNameStart
    (c : Char) : Bool :=
  CharClass.isAlphabetic c || c == '_'

/- A character of an identifier. -/
def isNameChar
    (c : Char) : Bool :=
  CharClass.isAlphanumeric c || c == '_'

/- The lexeme that is one punctuation character. -/
def punctuation? : Char → Option Lexeme
  | '(' => some .leftParen
  | ')' => some .rightParen
  | ',' => some .comma
  | '-' => some .minus
  | _ => none

------------------------------------------------------------
-- One Lexeme
------------------------------------------------------------

/- The lexeme that starts with `c`, before `cs`. -/
def word
    (s : Scan)
    (c : Char)
    (cs : List Char) : Except ParseError Lexeme × Scan :=
  match punctuation? c with
  | some l => (.ok l, s.withRest cs)
  | none =>
      if c = '\'' then
        match quoted? cs with
        | some (content, after) =>
            (.ok (.text (Utf8.encode content)), s.withRest after)
        | none =>
            (.error (.unterminatedString s.position), s.withRest [])
      else if CharClass.isDigit c then
        (.ok (.number
            (String.ofList (c :: cs.takeWhile isNumberChar))),
          s.withRest (cs.dropWhile isNumberChar))
      else if isNameStart c then
        (.ok (.identifier
            (String.ofList (c :: cs.takeWhile isNameChar))),
          s.withRest (cs.dropWhile isNameChar))
      else (.error (.unexpectedChar c s.position), s)

/- The next lexeme, after any white space. -/
def next
    (s : Scan) : Except ParseError Lexeme × Scan :=
  let s := s.withRest (s.rest.dropWhile CharClass.isBlank)
  match s.rest with
  | [] => (.ok .eof, s)
  | c :: cs => s.word c cs

------------------------------------------------------------
-- Progress
------------------------------------------------------------

/- What follows a quoted string is no longer than the text. -/
theorem quoted?_rest_length_le
    {cs content after : List Char}
    (h : quoted? cs = some (content, after)) :
    after.length ≤ cs.length := by
  fun_induction quoted? cs generalizing content with
  | case1 => cases h
  | case2 rest ih =>
      rw [Option.map_eq_some_iff] at h
      obtain ⟨⟨cs, after'⟩, hRest, hEq⟩ := h
      cases hEq
      have hLe := ih hRest
      simp only [List.length_cons]
      omega
  | case3 rest _ =>
      cases h
      simp
  | case4 c rest _ _ ih =>
      rw [Option.map_eq_some_iff] at h
      obtain ⟨⟨cs, after'⟩, hRest, hEq⟩ := h
      cases hEq
      have hLe := ih hRest
      simp only [List.length_cons]
      omega

/- A lexeme takes at least its first character. -/
theorem word_rest_length_le
    {s : Scan}
    {c : Char}
    {cs : List Char}
    {l : Lexeme}
    {s' : Scan}
    (h : s.word c cs = (.ok l, s')) :
    s'.rest.length ≤ cs.length := by
  unfold word at h
  split at h
  · cases h
    exact Nat.le_refl _
  · split at h
    · split at h
      · next content after hQuoted =>
          cases h
          exact quoted?_rest_length_le hQuoted
      · cases h
    · split at h
      · cases h
        exact (List.dropWhile_suffix isNumberChar).length_le
      · split at h
        · cases h
          exact (List.dropWhile_suffix isNameChar).length_le
        · cases h

/-
  A lexeme other than the end is taken off the text, so that
  less of the text remains.
-/
theorem next_rest_length_lt
    {s s' : Scan}
    {l : Lexeme}
    (h : s.next = (.ok l, s'))
    (hEof : l ≠ .eof) :
    s'.rest.length < s.rest.length := by
  have hDrop :
      (s.rest.dropWhile CharClass.isBlank).length ≤
        s.rest.length :=
    (List.dropWhile_suffix CharClass.isBlank).length_le
  unfold next at h
  simp only [withRest] at h
  split at h
  · cases h
    exact absurd rfl hEof
  · next c cs hCons =>
      have hLe := word_rest_length_le h
      rw [hCons, List.length_cons] at hDrop
      omega

end Scan

------------------------------------------------------------
-- All Lexemes
------------------------------------------------------------

namespace Lexeme

/- The lexemes of the rest of a text, the end included. -/
def ofScan
    (s : Scan) : Except ParseError (List Lexeme) :=
  match _h : s.next with
  | (.error e, _) => .error e
  | (.ok l, s') =>
      if _hEof : l = eof then .ok [eof]
      else do
        let ls ← ofScan s'
        .ok (l :: ls)
termination_by s.rest.length
decreasing_by exact Scan.next_rest_length_lt _h _hEof

/- The lexemes of a text, the end included. -/
def ofText
    (cs : List Char) : Except ParseError (List Lexeme) :=
  ofScan (Scan.ofText cs)

end Lexeme

end PartitionPruning
