import PartitionPruning.Proofs.Expr.Lexing

/-
  Splitting a text at places in it.

  A cursor goes over a text one character after another.  It
  reads numbers and names in a loop that starts at the first
  character, which the loop takes because digits are
  characters of numbers and letters characters of names.
  The lexemes are those of a scan, and each ends where the
  rest of the scan begins.

  Key definitions include:
    * `Cursor`
    * `Cursor.next`
    * `Cursor.tokenize`
    * `Cursor.scan`

  Main declarations:
    * `Cursor.readWhile_eq`
    * `Cursor.readString_eq`
    * `Cursor.next_eq`
    * `Cursor.next_advances`
    * `Cursor.tokenize_eq`
-/

namespace PartitionPruning

open CharClass (isBlank isDigit)

/- A place in a text, counted in characters. -/
structure Cursor where
  input : List Char
  position : Nat

/- A scan stays in its text. -/
theorem Scan.size_of_next
    {s s' : Scan}
    {answer : Except ParseError Lexeme}
    (h : s.next = (answer, s')) :
    s'.size = s.size := by
  unfold next word at h
  dsimp only at h
  repeat' split at h
  all_goals
    cases h
    rfl

namespace Cursor

------------------------------------------------------------
-- Characters
------------------------------------------------------------

/- The start of a text. -/
def ofText
    (cs : List Char) : Cursor :=
  ⟨cs, 0⟩

/- The character at a place, unless the text has ended. -/
def current?
    (p : Cursor) : Option Char :=
  p.input[p.position]?

/- The place after one more character. -/
def advance
    (p : Cursor) : Cursor :=
  ⟨p.input, p.position + 1⟩

/- The characters from a place on. -/
def remaining
    (p : Cursor) : List Char :=
  p.input.drop p.position

/- The place where a given end of the text begins. -/
def before
    (p : Cursor)
    (rest : List Char) : Cursor :=
  ⟨p.input, p.input.length - rest.length⟩

/- A place that does not lie behind the end of its text. -/
def InText
    (p : Cursor) : Prop :=
  p.position ≤ p.input.length

variable {p q : Cursor}
variable {c : Char}
variable {cs rest : List Char}

theorem inText_ofText
    (cs : List Char) :
    (ofText cs).InText :=
  Nat.zero_le _

theorem inText_before
    (p : Cursor)
    (rest : List Char) :
    (p.before rest).InText :=
  Nat.sub_le _ _

/- There is a character only before the end of the text. -/
theorem lt_length_of_current?
    (h : p.current? = some c) :
    p.position < p.input.length :=
  (List.getElem?_eq_some_iff.mp h).1

/- Advancing past a character does not leave the text. -/
theorem inText_advance
    (h : p.current? = some c) :
    p.advance.InText :=
  lt_length_of_current? h

theorem remaining_eq_nil
    (h : p.current? = none) :
    p.remaining = [] :=
  List.drop_eq_nil_of_le (List.getElem?_eq_none_iff.mp h)

/- The character at a place is the first that remains. -/
theorem remaining_eq_cons
    (h : p.current? = some c) :
    p.remaining = c :: p.advance.remaining := by
  rcases List.getElem?_eq_some_iff.mp h with ⟨hLess, rfl⟩
  exact List.drop_eq_getElem_cons hLess

theorem remaining_suffix
    (p : Cursor) :
    p.remaining <:+ p.input :=
  List.drop_suffix _ _

/- What remains of a text tells the place in it. -/
theorem before_remaining
    (h : p.InText) :
    p.before p.remaining = p := by
  rcases p with ⟨input, position⟩
  unfold InText at h
  simp only [before, remaining, List.length_drop, mk.injEq,
    true_and] at h ⊢
  omega

/- At the end of a text nothing remains. -/
theorem before_nil
    (hIn : p.InText)
    (h : p.current? = none) :
    p.before [] = p := by
  rw [← remaining_eq_nil h]
  exact before_remaining hIn

/- An end of the text is what remains where it begins. -/
theorem remaining_before
    (h : rest <:+ p.input) :
    (p.before rest).remaining = rest :=
  (List.suffix_iff_eq_drop.mp h).symm

------------------------------------------------------------
-- Loops
------------------------------------------------------------

/- Fewer characters are left after one more. -/
theorem left_advance_lt
    (h : p.current? = some c) :
    p.advance.input.length - p.advance.position <
      p.input.length - p.position := by
  have hLess := lt_length_of_current? h
  dsimp only [advance]
  omega

/-
  The characters of a class from a place on, and the place
  after them.
-/
def readWhile
    (isMember : Char → Bool)
    (p : Cursor) : List Char × Cursor :=
  match _h : p.current? with
  | none => ([], p)
  | some c =>
      if isMember c then
        let (cs, q) := readWhile isMember p.advance
        (c :: cs, q)
      else ([], p)
termination_by p.input.length - p.position
decreasing_by exact left_advance_lt _h

/-
  The content of a string from behind its opening quote on,
  which stands at `start`, and the place after its end.
-/
def readString
    (start : Nat)
    (p : Cursor) : Except ParseError (List Char) × Cursor :=
  match _h : p.current? with
  | none => (.error (.unterminatedString start), p)
  | some c =>
      if c = '\'' then
        if _hTwo : p.advance.current? = some '\'' then
          let (content, q) := readString start p.advance.advance
          (content.map fun cs => '\'' :: cs, q)
        else (.ok [], p.advance)
      else
        let (content, q) := readString start p.advance
        (content.map fun cs => c :: cs, q)
termination_by p.input.length - p.position
decreasing_by
  · exact
      Nat.lt_trans (left_advance_lt _hTwo) (left_advance_lt _h)
  · exact left_advance_lt _h

/- The loop over a class takes its characters off the text. -/
theorem readWhile_eq
    (isMember : Char → Bool)
    (hIn : p.InText) :
    p.readWhile isMember =
      (p.remaining.takeWhile isMember,
        p.before (p.remaining.dropWhile isMember)) := by
  fun_induction readWhile isMember p with
  | case1 p hEnd =>
      rw [remaining_eq_nil hEnd, List.takeWhile_nil,
        List.dropWhile_nil, before_nil hIn hEnd]
  | case2 p c hCurrent hMember cs q hRest ih =>
      have hTail := ih (inText_advance hCurrent)
      rw [hRest] at hTail
      cases hTail
      rw [remaining_eq_cons hCurrent,
        List.takeWhile_cons_of_pos hMember,
        List.dropWhile_cons_of_pos hMember]
      rfl
  | case3 p c hCurrent hOther =>
      rw [remaining_eq_cons hCurrent,
        List.takeWhile_cons_of_neg hOther,
        List.dropWhile_cons_of_neg hOther,
        ← remaining_eq_cons hCurrent, before_remaining hIn]

/- The loop over a string ends where its content ends. -/
theorem readString_eq
    (start : Nat)
    (hIn : p.InText) :
    p.readString start =
      match Scan.quoted? p.remaining with
      | some (content, after) => (.ok content, p.before after)
      | none =>
          (.error (.unterminatedString start), p.before []) := by
  fun_induction readString start p with
  | case1 p hEnd =>
      rw [remaining_eq_nil hEnd, before_nil hIn hEnd]
      rfl
  | case2 p hSecond content q hRest hFirst ih =>
      have hTail := ih (inText_advance hSecond)
      rw [hRest] at hTail
      -- Two quotes stand for one, and the string goes on
      -- behind both.
      rw [remaining_eq_cons hFirst, remaining_eq_cons hSecond,
        Scan.quoted?]
      rcases hQuoted :
          Scan.quoted? p.advance.advance.remaining with
        _ | ⟨inner, after⟩ <;>
        (rw [hQuoted] at hTail
         cases hTail
         rfl)
  | case3 p hOther hFirst =>
      have hHead : p.advance.remaining.head? ≠ some '\'' := by
        rw [remaining, List.head?_drop]
        exact hOther
      have hQuoted :
          Scan.quoted? p.remaining =
            some ([], p.advance.remaining) := by
        rw [remaining_eq_cons hFirst]
        exact Scan.quoted?_doubled [] hHead
      rw [hQuoted]
      dsimp only
      exact
        congrArg (Prod.mk (Except.ok []))
          (before_remaining (inText_advance hFirst)).symm
  | case4 p c hCurrent hOther content q hRest ih =>
      have hTail := ih (inText_advance hCurrent)
      rw [hRest] at hTail
      have hNoTwo :
          ∀ rest, c = '\'' →
            p.advance.remaining = '\'' :: rest → False := by
        intro _ hQuote _
        exact hOther hQuote
      rw [remaining_eq_cons hCurrent, Scan.quoted?, if_neg hOther]
      · rcases hQuoted : Scan.quoted? p.advance.remaining with
          _ | ⟨inner, after⟩ <;>
          (rw [hQuoted] at hTail
           cases hTail
           rfl)
      · exact hNoTwo

------------------------------------------------------------
-- One Lexeme
------------------------------------------------------------

/- The lexeme that starts with the character at a place. -/
def word
    (p : Cursor)
    (c : Char) : Except ParseError Lexeme × Cursor :=
  match Scan.punctuation? c with
  | some l => (.ok l, p.advance)
  | none =>
      if c = '\'' then
        let (content, q) := p.advance.readString p.position
        (content.map fun cs => .text (Utf8.encode cs), q)
      else if isDigit c then
        let (digits, q) := p.readWhile Scan.isNumberChar
        (.ok (.number (String.ofList digits)), q)
      else if Scan.isNameStart c then
        let (name, q) := p.readWhile Scan.isNameChar
        (.ok (.identifier (String.ofList name)), q)
      else (.error (.unexpectedChar c p.position), p)

/- The next lexeme, after any white space. -/
def next
    (p : Cursor) : Except ParseError Lexeme × Cursor :=
  let p := (p.readWhile isBlank).2
  match p.current? with
  | none => (.ok .eof, p)
  | some c => p.word c

/- What is left of a text to scan. -/
def scan
    (p : Cursor) : Scan :=
  ⟨p.input.length, p.remaining⟩

/- Errors of a scan and of a cursor tell of one place. -/
theorem position_scan
    (h : p.InText) :
    p.scan.position = p.position := by
  unfold InText at h
  simp only [Scan.position, scan, remaining, List.length_drop]
  omega

/-
  A loop that starts at the first character of a number or
  of a name takes that character.
-/
theorem word_eq
    (h : p.current? = some c) :
    p.word c =
      ((p.scan.word c p.advance.remaining).1,
        p.before (p.scan.word c p.advance.remaining).2.rest) := by
  have hIn : p.InText := Nat.le_of_lt (lt_length_of_current? h)
  have hNext := inText_advance h
  have hCons := remaining_eq_cons h
  unfold word Scan.word
  cases hMark : Scan.punctuation? c with
  | some l =>
      exact
        congrArg (Prod.mk (Except.ok l))
          (before_remaining hNext).symm
  | none =>
      dsimp only
      split
      · rw [readString_eq p.position hNext, position_scan hIn]
        rcases Scan.quoted? p.advance.remaining with
          _ | ⟨content, after⟩ <;> rfl
      · split
        · next hDigit =>
            -- The loop starts at `c` and has to take it.
            have hMember : Scan.isNumberChar c = true := by
              rw [Scan.isNumberChar, hDigit]
              rfl
            rw [readWhile_eq Scan.isNumberChar hIn, hCons,
              List.takeWhile_cons_of_pos hMember,
              List.dropWhile_cons_of_pos hMember]
            rfl
        · split
          · next hName =>
              have hMember := Scan.isNameChar_of_isNameStart hName
              rw [readWhile_eq Scan.isNameChar hIn, hCons,
                List.takeWhile_cons_of_pos hMember,
                List.dropWhile_cons_of_pos hMember]
              rfl
          · rw [position_scan hIn]
            exact
              congrArg (Prod.mk (Except.error _))
                (before_remaining hIn).symm

/- The place after any white space. -/
def afterBlank
    (p : Cursor) : Cursor :=
  p.before (p.remaining.dropWhile isBlank)

theorem remaining_afterBlank
    (p : Cursor) :
    p.afterBlank.remaining = p.remaining.dropWhile isBlank :=
  remaining_before
    ((List.dropWhile_suffix isBlank).trans p.remaining_suffix)

/- A scan goes on where a cursor has passed white space. -/
theorem next_scan
    (p : Cursor) :
    p.scan.next =
      match p.afterBlank.current? with
      | none => (.ok .eof, p.afterBlank.scan)
      | some c =>
          p.afterBlank.scan.word c
            p.afterBlank.advance.remaining := by
  have hScan :
      p.scan.withRest (p.scan.rest.dropWhile isBlank) =
        p.afterBlank.scan :=
    congrArg (Scan.mk p.input.length)
      p.remaining_afterBlank.symm
  unfold Scan.next
  rw [hScan]
  cases hCurrent : p.afterBlank.current? with
  | none =>
      have hRest : p.afterBlank.scan.rest = [] :=
        remaining_eq_nil hCurrent
      simp only [hRest]
  | some c =>
      have hRest :
          p.afterBlank.scan.rest =
            c :: p.afterBlank.advance.remaining :=
        remaining_eq_cons hCurrent
      simp only [hRest]

/- A cursor and a scan read the same lexeme. -/
theorem next_eq
    (h : p.InText) :
    p.next =
      (p.scan.next.1, p.before p.scan.next.2.rest) := by
  have hBlank :
      p.readWhile isBlank =
        (p.remaining.takeWhile isBlank, p.afterBlank) :=
    readWhile_eq isBlank h
  unfold next
  rw [hBlank, next_scan]
  dsimp only
  cases hCurrent : p.afterBlank.current? with
  | none =>
      exact
        congrArg (Prod.mk (Except.ok Lexeme.eof))
          (before_remaining (inText_before _ _)).symm
  | some c => exact word_eq hCurrent

/- Behind the end of a text nothing is read. -/
theorem next_of_current?
    (h : p.current? = none) :
    p.next = (.ok .eof, p) := by
  have hBlank : p.readWhile isBlank = ([], p) := by
    rw [readWhile]
    split
    · rfl
    · next hSome =>
        rw [h] at hSome
        cases hSome
  unfold next
  rw [hBlank]
  dsimp only
  rw [h]

/- No call leaves the text, so that another can follow. -/
theorem inText_next
    (h : p.InText) :
    p.next.2.InText := by
  rw [next_eq h]
  exact inText_before _ _

/- The text itself is never changed. -/
theorem input_next
    (h : p.InText) :
    p.next.2.input = p.input := by
  rw [next_eq h]
  rfl

/- A lexeme is read in step with the scan. -/
theorem scan_next
    {l : Lexeme}
    (hIn : p.InText)
    (h : p.next = (.ok l, q))
    (hEof : l ≠ .eof) :
    p.scan.next = (.ok l, q.scan) := by
  rw [next_eq hIn] at h
  rcases hScan : p.scan.next with ⟨answer, size, rest⟩
  rw [hScan] at h
  cases h
  have hSize : size = p.input.length := Scan.size_of_next hScan
  have hSuffix : rest <:+ p.remaining := by
    rcases Scan.next_eq_ok_cases hScan with
      ⟨hEnd, _⟩ | ⟨gap, spelling, _, _, hRest⟩
    · exact absurd hEnd hEof
    · refine ⟨gap ++ spelling, ?_⟩
      rw [List.append_assoc]
      exact hRest.symm
  have hRemaining :=
    remaining_before (hSuffix.trans p.remaining_suffix)
  rw [scan, hRemaining, hSize]
  rfl

/-
  A step: a lexeme other than the end advances the place
  within the text.
-/
theorem next_advances
    {l : Lexeme}
    (h : p.next = (.ok l, q))
    (hEof : l ≠ .eof) :
    q.input = p.input ∧ p.position < q.position ∧
      q.position ≤ p.input.length := by
  by_cases hIn : p.InText
  · have hLess :=
      Scan.next_rest_length_lt (scan_next hIn h hEof) hEof
    have hInput : q.input = p.input := by
      rw [← input_next hIn, h]
    have hNext : q.InText := by
      have hAny := inText_next hIn
      rwa [h] at hAny
    rw [InText, hInput] at hNext
    simp only [scan, remaining, List.length_drop, hInput]
      at hLess
    exact ⟨hInput, by omega, hNext⟩
  · have hEnd : p.current? = none :=
      List.getElem?_eq_none (Nat.le_of_not_le hIn)
    rw [next_of_current? hEnd] at h
    cases h
    exact absurd rfl hEof

------------------------------------------------------------
-- All Lexemes
------------------------------------------------------------

/-
  The lexemes from a place on, the end included, unless they
  are not all read in so many rounds.
-/
def tokenize :
    Nat → Cursor → Option (Except ParseError (List Lexeme))
  | 0, _ => none
  | rounds + 1, p =>
      match p.next with
      | (.error e, _) => some (.error e)
      | (.ok l, q) =>
          if l = .eof then some (.ok [.eof])
          else
            (tokenize rounds q).map fun answer =>
              answer.map fun ls => l :: ls

/- The lexemes of a scan are those of its steps. -/
theorem ofScan_eq
    (s : Scan) :
    Lexeme.ofScan s =
      match s.next with
      | (.error e, _) => .error e
      | (.ok l, s') =>
          if l = .eof then .ok [.eof]
          else (Lexeme.ofScan s').map fun ls => l :: ls := by
  rw [Lexeme.ofScan]
  split
  · next hNext =>
      rw [hNext]
  · next hNext =>
      rw [hNext]
      dsimp only
      split
      · rfl
      · exact Steps.bind_ok _ _

/- A run: more rounds than characters read all lexemes. -/
theorem tokenize_eq
    {rounds : Nat}
    (hIn : p.InText)
    (hRounds : p.remaining.length < rounds) :
    p.tokenize rounds = some (Lexeme.ofScan p.scan) := by
  induction rounds generalizing p with
  | zero => exact absurd hRounds (Nat.not_lt_zero _)
  | succ rounds ih =>
      have hSame : p.next.1 = p.scan.next.1 := by
        rw [next_eq hIn]
      rcases hNext : p.next with ⟨answer, q⟩
      rcases hScan : p.scan.next with ⟨answer, s⟩
      rw [hNext, hScan] at hSame
      subst hSame
      rw [tokenize, ofScan_eq, hNext, hScan]
      cases answer with
      | error e => rfl
      | ok l =>
          dsimp only
          by_cases hEof : l = .eof
          · rw [if_pos hEof, if_pos hEof]
          · -- A lexeme takes a character at least, so one
            -- round less is enough for what is left.
            have hStep := scan_next hIn hNext hEof
            rw [hScan] at hStep
            cases hStep
            have hLess :
                q.remaining.length < p.remaining.length :=
              Scan.next_rest_length_lt hScan hEof
            have hEnough : q.remaining.length < rounds := by
              omega
            have hNextIn := inText_next hIn
            rw [hNext] at hNextIn
            rw [if_neg hEof, if_neg hEof, ih hNextIn hEnough]
            rfl

end Cursor

end PartitionPruning
