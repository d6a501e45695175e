import PartitionPruning.Expr.OfOperand
import PartitionPruning.Proofs.Expr.Writing

/-
  Operands as trees and as texts.

  An operand of integers, strings and calls has an
  expression, and it has a text, which may be read as an
  expression.  Both ways give the same expression, and both
  fail where a function is unknown or the calls are nested
  too deep.

  Key definitions include:
    * `Operand.lexemes`
    * `Operand.written`
    * `Operand.IsWritable`

  Main declarations:
    * `Operand.IsWritable.spell`
    * `Operand.IsWritable.apart`
    * `Operand.IsWritable.gives_iff`
    * `Operand.parse_eq_ok_iff_toExpr`
    * `Operand.toExpr_eq_ok_iff_parse_written`
-/

namespace PartitionPruning

open Lexeme (Spell Apart)

namespace Operand

------------------------------------------------------------
-- Lexemes And Texts
------------------------------------------------------------

mutual

/-
  The lexemes of an operand.  There are none for a
  placeholder.
-/
def lexemes : Operand → List Lexeme
  | int v => Expr.lexemesOfInt v
  | text bytes => [.text bytes]
  | placeholder _ => []
  | column name => [.identifier name]
  | call name args =>
      .identifier name :: .leftParen ::
        (lexemesOfArgs args ++ [.rightParen])

/- The lexemes of arguments, with commas between them. -/
def lexemesOfArgs : List Operand → List Lexeme
  | [] => []
  | [o] => o.lexemes
  | o :: p :: os =>
      o.lexemes ++ .comma :: lexemesOfArgs (p :: os)

end

mutual

/- An operand without white space. -/
def written : Operand → List Char
  | int v => (Expr.int v).written
  | text bytes => (Expr.text bytes).written
  | placeholder _ => []
  | column name => name.toList
  | call name args =>
      name.toList ++ '(' :: (writtenArgs args ++ [')'])

/- Arguments with commas between them. -/
def writtenArgs : List Operand → List Char
  | [] => []
  | [o] => o.written
  | o :: p :: os => o.written ++ ',' :: writtenArgs (p :: os)

end

mutual

/-
  Integers, strings of UTF-8 and calls of names that can be
  read, known or unknown.
-/
def IsWritable : Operand → Prop
  | int _ => True
  | text bytes => ∃ cs, bytes = Utf8.encode cs
  | placeholder _ => False
  | column _ => False
  | call name args => Scan.IsName name ∧ AreWritable args

def AreWritable : List Operand → Prop
  | [] => True
  | o :: os => o.IsWritable ∧ AreWritable os

end

------------------------------------------------------------
-- Spellings
------------------------------------------------------------

mutual

/- The lexemes of an operand spell its writing. -/
theorem IsWritable.spell
    {ms : List Lexeme}
    {after : List Char}
    {o : Operand}
    (h : o.IsWritable)
    (hAfter : Spell ms after) :
    Spell (o.lexemes ++ ms) (o.written ++ after) := by
  cases o with
  | int v => exact Expr.spell_ofInt v hAfter
  | text bytes =>
      rcases h with ⟨cs, rfl⟩
      have hString := hAfter.adjoin (.text cs)
      simpa [lexemes, written, Expr.written] using hString
  | placeholder index => exact h.elim
  | column name => exact h.elim
  | call name args =>
      have hClose := hAfter.adjoin (.punctuation (c := ')') rfl)
      have hInner := AreWritable.spell h.2 hClose
      have hOpen := hInner.adjoin (.punctuation (c := '(') rfl)
      have hCall :=
        hOpen.adjoin (Lexeme.isSpelled_identifier h.1)
      simpa [lexemes, written] using hCall

/- The lexemes of arguments spell them with their commas. -/
theorem AreWritable.spell
    {ms : List Lexeme}
    {after : List Char}
    {os : List Operand}
    (h : AreWritable os)
    (hAfter : Spell ms after) :
    Spell (lexemesOfArgs os ++ ms)
      (writtenArgs os ++ after) := by
  match os, h with
  | [], _ => exact hAfter
  | [o], h => exact IsWritable.spell h.1 hAfter
  | o :: p :: os, h =>
      have hOthers := AreWritable.spell h.2 hAfter
      have hComma := hOthers.adjoin (.punctuation (c := ',') rfl)
      have hFirst := IsWritable.spell h.1 hComma
      simpa [lexemesOfArgs, writtenArgs] using hFirst

end

mutual

/- No two words of an operand stand side by side. -/
theorem IsWritable.apart
    {m : Lexeme}
    {rest : List Lexeme}
    {o : Operand}
    (h : o.IsWritable)
    (hMark : m.isWord = false)
    (hRest : Apart (m :: rest)) :
    Apart (o.lexemes ++ m :: rest) := by
  cases o with
  | int v =>
      exact (Expr.phrase_lexemesOfInt v).apart hMark hRest
  | text bytes => exact hRest.cons hMark
  | placeholder index => exact h.elim
  | column name => exact h.elim
  | call name args =>
      have hInner :
          Apart
            (lexemesOfArgs args ++
              .rightParen :: m :: rest) :=
        AreWritable.apart h.2 rfl (hRest.cons_mark rfl)
      have hOpen := hInner.cons_mark (l := .leftParen) rfl
      have hCall := hOpen.cons (l := .identifier name) rfl
      simpa [lexemes] using hCall

theorem AreWritable.apart
    {m : Lexeme}
    {rest : List Lexeme}
    {os : List Operand}
    (h : AreWritable os)
    (hMark : m.isWord = false)
    (hRest : Apart (m :: rest)) :
    Apart (lexemesOfArgs os ++ m :: rest) := by
  match os, h with
  | [], _ => exact hRest
  | [o], h => exact IsWritable.apart h.1 hMark hRest
  | o :: p :: os, h =>
      have hOthers := AreWritable.apart h.2 hMark hRest
      have hFirst :=
        IsWritable.apart (m := .comma) h.1 rfl
          (hOthers.cons_mark rfl)
      simpa [lexemesOfArgs] using hFirst

end

------------------------------------------------------------
-- Conversions
------------------------------------------------------------

/-
  A call has an expression where its function is known and
  its arguments have expressions.
-/
theorem convert_call_eq_ok_iff
    {name : String}
    {args : List Operand}
    {e : Expr} :
    (call name args).convert = .ok e ↔
      ∃ f es, Func.ofName? name = some f ∧
        convertArgs args = .ok es ∧ .call f es = e := by
  rw [convert]
  split
  · next hName => simp [hName]
  · next f hName => simp [hName, Steps.bind_eq_ok_iff]

/-
  An operand has its expression as long as its calls are
  not nested too deep.
-/
theorem toExpr_eq_ok_iff
    {limit : Nat}
    {o : Operand}
    {e : Expr} :
    o.toExpr limit = .ok e ↔
      o.convert = .ok e ∧ o.depth ≤ limit := by
  unfold toExpr
  by_cases hDeep : limit < o.depth
  · simp [hDeep, Nat.not_le.mpr hDeep]
  · simp [hDeep, Nat.le_of_not_lt hDeep]

theorem convertArgs_cons_eq_ok_iff
    {o : Operand}
    {os : List Operand}
    {es : List Expr} :
    convertArgs (o :: os) = .ok es ↔
      ∃ d ds, o.convert = .ok d ∧ convertArgs os = .ok ds ∧
        d :: ds = es := by
  simp [convertArgs, Steps.bind_eq_ok_iff]

mutual

/- An expression is as deep as the operand it comes from. -/
theorem depth_of_convert
    {o : Operand}
    {e : Expr}
    (h : o.convert = .ok e) :
    e.depth = o.depth := by
  cases o with
  | int v =>
      cases h
      rfl
  | text bytes =>
      cases h
      rfl
  | placeholder index => cases h
  | column name => cases h
  | call name args =>
      rcases convert_call_eq_ok_iff.mp h with
        ⟨f, es, _, hArgs, rfl⟩
      rw [Expr.depth, depth, depthOfArgs_of_convertArgs hArgs]

/- Arguments are nested as deep as their expressions. -/
theorem depthOfArgs_of_convertArgs
    {os : List Operand}
    {es : List Expr}
    (h : convertArgs os = .ok es) :
    Expr.depthOfArgs es = depthOfArgs os := by
  cases os with
  | nil =>
      cases h
      rfl
  | cons o os =>
      rcases convertArgs_cons_eq_ok_iff.mp h with
        ⟨d, ds, hFirst, hOthers, rfl⟩
      rw [Expr.depthOfArgs, depthOfArgs,
        depth_of_convert hFirst,
        depthOfArgs_of_convertArgs hOthers]

end

------------------------------------------------------------
-- Readings
------------------------------------------------------------

open Reading (expression arguments moreArguments Gives)

variable {limit depth : Nat}
variable {rest rest' : List Lexeme}
variable {e : Expr}
variable {es : List Expr}

/- An integer is read off its lexemes. -/
theorem gives_lexemesOfInt_iff
    {v : Int64} :
    (expression limit depth (Expr.lexemesOfInt v ++ rest)).Gives
        e rest' ↔
      rest = rest' ∧ .int v = e := by
  have hEnd : Spell [.eof] [] := .eof List.all_nil
  have hPhrase := Expr.phrase_lexemesOfInt v
  have hDigits := (Expr.spell_ofInt v hEnd).hasDigits
  unfold Expr.lexemesOfInt at *
  dsimp only at *
  split at hPhrase
  · next hSign =>
      have hInteger := Reading.integer_negative_iff.mpr hPhrase
      simp [hSign, hInteger, Reading.expression_gives_iff]
  · next hSign =>
      have hFirst :=
        hDigits (String.ofList (Numeral.digits v.toInt.natAbs))
          (by simp [hSign])
      have hInteger :=
        (Reading.integer_natural_iff hFirst).mpr hPhrase
      simp [hSign, hInteger, Reading.expression_gives_iff]

/- A name before a parenthesis is a function with arguments. -/
theorem gives_call_iff
    {name : String}
    {inner : List Lexeme} :
    (expression limit depth
        (.identifier name :: .leftParen :: inner)).Gives e
        rest ↔
      ∃ f es, depth < limit ∧ Func.ofName? name = some f ∧
        (arguments limit (depth + 1) inner).Gives es rest ∧
        .call f es = e := by
  rw [Reading.expression_gives_iff]
  grind

/- What follows the first argument tells if others do. -/
theorem gives_more_iff_of_first
    {ls next : List Lexeme}
    {P : Expr → Prop}
    (hFirst :
      ∀ d after, (expression limit depth ls).Gives d after ↔
        next = after ∧ P d) :
    (moreArguments limit depth ls).Gives es rest ↔
      (next = .rightParen :: rest ∧ ∃ d, P d ∧ [d] = es) ∨
        ∃ others, next = .comma :: others ∧
          ∃ d ds, P d ∧ d :: ds = es ∧
            (moreArguments limit depth others).Gives ds rest := by
  rw [Reading.moreArguments_gives_iff]
  simp only [hFirst]
  constructor
  · rintro ⟨d, after, ⟨rfl, hd⟩, hNext⟩
    rcases hNext with
      ⟨hLast, rfl⟩ | ⟨others, ds, hMore, hRead, rfl⟩
    · exact .inl ⟨hLast, d, hd, rfl⟩
    · exact .inr ⟨others, hMore, d, ds, hd, rfl, hRead⟩
  · rintro
      (⟨hLast, d, hd, rfl⟩ |
        ⟨others, hMore, d, ds, hd, rfl, hRead⟩)
    · exact ⟨d, next, ⟨rfl, hd⟩, .inl ⟨hLast, rfl⟩⟩
    · exact
        ⟨d, next, ⟨rfl, hd⟩,
          .inr ⟨others, ds, hMore, hRead, rfl⟩⟩

/- The first lexeme of an operand closes no call. -/
theorem IsWritable.exists_first
    {o : Operand}
    (h : o.IsWritable) :
    ∃ l ls, o.lexemes = l :: ls ∧ l ≠ .rightParen := by
  cases o with
  | int v =>
      rw [lexemes, Expr.lexemesOfInt]
      split <;> simp
  | text bytes => exact ⟨_, _, rfl, by simp⟩
  | placeholder index => exact h.elim
  | column name => exact h.elim
  | call name args => exact ⟨_, _, rfl, by simp⟩

/- Every argument is inside the calls around the first. -/
theorem add_depthOfArgs_cons_le_iff
    {o : Operand}
    {os : List Operand} :
    depth + depthOfArgs (o :: os) ≤ limit ↔
      depth + o.depth ≤ limit ∧
        depth + depthOfArgs os ≤ limit := by
  have hMax :
      depthOfArgs (o :: os) = max o.depth (depthOfArgs os) :=
    rfl
  rw [hMax]
  omega

/-
  Arguments are read off their lexemes, where this is so for
  one argument or more.
-/
theorem AreWritable.gives_iff_of_more
    {os : List Operand}
    (h : AreWritable os)
    (hDepth : depth ≤ limit)
    (hMore :
      os ≠ [] →
        ((moreArguments limit depth
            (lexemesOfArgs os ++ .rightParen :: rest)).Gives es
            rest' ↔
          rest = rest' ∧ convertArgs os = .ok es ∧
            depth + depthOfArgs os ≤ limit)) :
    (arguments limit depth
        (lexemesOfArgs os ++ .rightParen :: rest)).Gives es
        rest' ↔
      rest = rest' ∧ convertArgs os = .ok es ∧
        depth + depthOfArgs os ≤ limit := by
  cases os with
  | nil =>
      simp [lexemesOfArgs, arguments, Gives, convertArgs,
        depthOfArgs, hDepth, and_comm]
  | cons o os =>
      rcases IsWritable.exists_first h.1 with
        ⟨l, ls, hLexemes, hFirst⟩
      have hSome :
          lexemesOfArgs (o :: os) ++ .rightParen :: rest ≠
            .rightParen :: rest' := by
        cases os <;> simp [lexemesOfArgs, hLexemes, hFirst]
      rw [Reading.arguments_gives_iff,
        or_iff_right fun hNone => hSome hNone.2]
      exact hMore (by simp)

mutual

/-
  What is read off the lexemes of an operand inside `depth`
  calls is its expression, where the calls are not nested
  too deep.
-/
theorem IsWritable.gives_iff
    {limit depth : Nat}
    {rest rest' : List Lexeme}
    {o : Operand}
    {e : Expr}
    (h : o.IsWritable)
    (hDepth : depth ≤ limit) :
    (expression limit depth (o.lexemes ++ rest)).Gives e
        rest' ↔
      rest = rest' ∧ o.convert = .ok e ∧
        depth + o.depth ≤ limit := by
  cases o with
  | int v =>
      rw [lexemes, gives_lexemesOfInt_iff]
      simp [convert, Operand.depth, hDepth]
  | text bytes =>
      rw [lexemes, List.singleton_append,
        Reading.expression_gives_iff]
      simp [convert, Operand.depth, hDepth, eq_comm]
  | placeholder index => exact h.elim
  | column name => exact h.elim
  | call name args =>
      have hLexemes :
          (call name args).lexemes ++ rest =
            .identifier name :: .leftParen ::
              (lexemesOfArgs args ++ .rightParen :: rest) := by
        simp [lexemes]
      -- The arguments are read inside one more call.
      have hArgs (hLt : depth < limit) (es : List Expr) :
          (arguments limit (depth + 1)
              (lexemesOfArgs args ++ .rightParen :: rest)).Gives
              es rest' ↔
            rest = rest' ∧ convertArgs args = .ok es ∧
              depth + 1 + depthOfArgs args ≤ limit :=
        AreWritable.gives_iff_of_more h.2 hLt
          (AreWritable.gives_iff h.2 hLt)
      rw [hLexemes, gives_call_iff, convert_call_eq_ok_iff,
        Operand.depth]
      constructor
      · rintro ⟨f, es, hLt, hName, hGives, rfl⟩
        rcases (hArgs hLt es).mp hGives with
          ⟨hRest, hConvert, hNested⟩
        exact
          ⟨hRest, ⟨f, es, hName, hConvert, rfl⟩, by omega⟩
      · rintro ⟨hRest, ⟨f, es, hName, hConvert, rfl⟩, hNested⟩
        have hLt : depth < limit := by omega
        have hGives :=
          (hArgs hLt es).mpr ⟨hRest, hConvert, by omega⟩
        exact ⟨f, es, hLt, hName, hGives, rfl⟩

/- One argument or more is read off its lexemes. -/
theorem AreWritable.gives_iff
    {limit depth : Nat}
    {rest rest' : List Lexeme}
    {os : List Operand}
    {es : List Expr}
    (h : AreWritable os)
    (hDepth : depth ≤ limit)
    (hNe : os ≠ []) :
    (moreArguments limit depth
        (lexemesOfArgs os ++ .rightParen :: rest)).Gives es
        rest' ↔
      rest = rest' ∧ convertArgs os = .ok es ∧
        depth + depthOfArgs os ≤ limit := by
  -- A parenthesis follows the last argument, and a comma any
  -- other.
  match os, h with
  | [], _ => exact absurd rfl hNe
  | [o], h =>
      have hLast (d : Expr) (after : List Lexeme) :
          (expression limit depth
              (o.lexemes ++ .rightParen :: rest)).Gives d
              after ↔
            .rightParen :: rest = after ∧ o.convert = .ok d ∧
              depth + o.depth ≤ limit :=
        IsWritable.gives_iff h.1 hDepth
      rw [lexemesOfArgs, gives_more_iff_of_first hLast,
        convertArgs_cons_eq_ok_iff,
        add_depthOfArgs_cons_le_iff]
      grind [convertArgs, depthOfArgs]
  | o :: p :: os, h =>
      have hFirst (d : Expr) (after : List Lexeme) :
          (expression limit depth
              (o.lexemes ++ .comma ::
                (lexemesOfArgs (p :: os) ++
                  .rightParen :: rest))).Gives d after ↔
            .comma :: (lexemesOfArgs (p :: os) ++
                .rightParen :: rest) = after ∧
              o.convert = .ok d ∧ depth + o.depth ≤ limit :=
        IsWritable.gives_iff h.1 hDepth
      have hOthers (ds : List Expr) :
          (moreArguments limit depth
              (lexemesOfArgs (p :: os) ++
                .rightParen :: rest)).Gives ds rest' ↔
            rest = rest' ∧ convertArgs (p :: os) = .ok ds ∧
              depth + depthOfArgs (p :: os) ≤ limit :=
        AreWritable.gives_iff h.2 hDepth (by simp)
      rw [lexemesOfArgs, List.append_assoc, List.cons_append,
        gives_more_iff_of_first hFirst,
        convertArgs_cons_eq_ok_iff,
        add_depthOfArgs_cons_le_iff]
      grind

end

------------------------------------------------------------
-- Trees And Texts
------------------------------------------------------------

/-
  A whole reading of the lexemes of an operand gives the
  expression of the operand.
-/
theorem whole_lexemes_eq_ok_iff
    {o : Operand}
    (h : o.IsWritable) :
    (Reading.whole limit (o.lexemes ++ [.eof])).result =
        .ok e ↔
      o.toExpr limit = .ok e := by
  have hGives (after : List Lexeme) :
      (expression limit 0 (o.lexemes ++ [.eof])).Gives e
          after ↔
        [.eof] = after ∧ o.convert = .ok e ∧
          0 + o.depth ≤ limit :=
    h.gives_iff (Nat.zero_le limit)
  rw [Reading.whole_eq_ok_iff, toExpr_eq_ok_iff]
  constructor
  · rintro ⟨hResult, _⟩
    rcases (hGives _).mp ⟨hResult, rfl⟩ with
      ⟨_, hConvert, hNested⟩
    exact ⟨hConvert, by omega⟩
  · rintro ⟨hConvert, hNested⟩
    have hRead := (hGives _).mpr ⟨rfl, hConvert, by omega⟩
    exact ⟨hRead.1, by rw [hRead.2]; rfl⟩

/-
  A text with the lexemes of an operand, white space
  anywhere around them, is read as the expression of the
  operand.
-/
theorem parse_eq_ok_iff_toExpr
    {o : Operand}
    {cs : List Char}
    (h : o.IsWritable)
    (hSpell : Spell (o.lexemes ++ [.eof]) cs) :
    Expr.parse limit cs = .ok e ↔ o.toExpr limit = .ok e := by
  have hApart : Apart (o.lexemes ++ [.eof]) :=
    h.apart rfl (List.isChain_singleton _)
  have hLexemes :
      Expr.lexemes cs = .ok (o.lexemes ++ [.eof]) :=
    Expr.lexemes_eq_ok_iff.mpr
      (Lexeme.ofText_of_spell hSpell hApart)
  rw [Expr.parse, hLexemes, Steps.ok_bind]
  exact whole_lexemes_eq_ok_iff h

/-
  An operand of integers, strings of UTF-8 and calls has an
  expression exactly if its writing is read as that
  expression, which is as deep as the operand and no deeper
  than the limit.
-/
theorem toExpr_eq_ok_iff_parse_written
    (limit : Nat)
    (o : Operand)
    (e : Expr)
    (h : o.IsWritable) :
    (o.toExpr limit = .ok e ↔
        Expr.parse limit o.written = .ok e) ∧
      (o.toExpr limit = .ok e →
        e.depth = o.depth ∧ o.depth ≤ limit) := by
  have hEnd : Spell [.eof] [] := .eof List.all_nil
  have hSpell := h.spell hEnd
  rw [List.append_nil] at hSpell
  refine ⟨(parse_eq_ok_iff_toExpr h hSpell).symm, ?_⟩
  intro hExpr
  rcases toExpr_eq_ok_iff.mp hExpr with ⟨hConvert, hNested⟩
  exact ⟨depth_of_convert hConvert, hNested⟩

/- The least integer, a quote and a call without arguments. -/
def lowerConcat : Operand :=
  .call "concat"
    [.int Int64.minValue, .text (Utf8.encode ['\'', 'é']),
      .call "sysdate" []]

theorem parse_lowerConcat :
    lowerConcat.IsWritable ∧
      lowerConcat.written =
        ("concat(-9223372036854775808,'''é'," ++
          "sysdate())").toList ∧
      Expr.parse 2 lowerConcat.written =
        .ok
          (.call .concat
            [.int Int64.minValue,
              .text (Utf8.encode ['\'', 'é']),
              .call .sysDate []]) ∧
      ∀ e, Expr.parse 1 lowerConcat.written ≠ .ok e := by
  have hOuter : Scan.IsName "concat" :=
    Scan.isName_of_latin (by decide) rfl
  have hInner : Scan.IsName "sysdate" :=
    Scan.isName_of_latin (by decide) rfl
  have hWritable : lowerConcat.IsWritable :=
    ⟨hOuter, trivial, ⟨_, rfl⟩, ⟨hInner, trivial⟩, trivial⟩
  have hWritten :
      lowerConcat.written =
        ("concat(-9223372036854775808,'''é'," ++
          "sysdate())").toList := by
    simp only [lowerConcat, written, writtenArgs, Expr.written,
      Utf8.decode?_encode]
    decide
  have hTwo := toExpr_eq_ok_iff_parse_written 2 lowerConcat
  have hOne := toExpr_eq_ok_iff_parse_written 1 lowerConcat
  refine ⟨hWritable, hWritten, ?_, ?_⟩
  · exact (hTwo _ hWritable).1.mp rfl
  · intro e hRead
    have hTree := (hOne e hWritable).1.mpr hRead
    cases hTree

end Operand

end PartitionPruning
