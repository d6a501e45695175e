import Mathlib.Data.List.Nodup
import PartitionPruning.Expr.Reading
import PartitionPruning.Proofs.Steps
import PartitionPruning.Proofs.Text.Digits

/-
  The grammar of expressions, and what readings give.

  An expression is an integer, a string, a column or the
  call of a function with arguments between parentheses.  A
  reading gives an expression exactly if the lexemes it
  takes are a phrase for the expression, and the calls in it
  are not nested too deep.

  Key definitions include:
    * `Expr.Phrase`
    * `Expr.Arguments`
    * `Reading.Gives`
    * `Lexeme.HasDigits`

  Main declarations:
    * `Func.ofName?_eq_some_iff`
    * `Reading.expression_gives_iff`
    * `Reading.moreArguments_gives_iff`
    * `Reading.expression_gives_iff_phrase`
-/

namespace PartitionPruning

open CharClass (isDigit)

------------------------------------------------------------
-- Names Of Functions
------------------------------------------------------------

namespace Func

theorem nodup_names :
    (all.map name).Nodup := by
  decide

/- Different functions have different names. -/
theorem name_injective
    {f g : Func}
    (h : f.name = g.name) :
    f = g :=
  List.inj_on_of_nodup_map nodup_names (mem_all f) (mem_all g) h

/- A function is found by its name in any case. -/
theorem ofName?_eq_some_iff
    {s : String}
    {f : Func} :
    ofName? s = some f ↔ CharClass.upper s = f.name := by
  unfold ofName?
  constructor
  · intro h
    have hName := List.find?_some h
    simpa [eq_comm] using hName
  · intro h
    cases hFound :
        all.find? fun g => decide (g.name = CharClass.upper s) with
    | none =>
        have hOther := List.find?_eq_none.mp hFound f (mem_all f)
        simp [h] at hOther
    | some g =>
        have hName : g.name = CharClass.upper s := by
          simpa using List.find?_some hFound
        rw [name_injective (hName.trans h)]

end Func

------------------------------------------------------------
-- Phrases
------------------------------------------------------------

namespace Expr

mutual

/-
  The lexemes of an expression.  An integer has its digits,
  and a minus before them where it is negative or zero.  The
  name of a function may be in any case.
-/
inductive Phrase : Expr → List Lexeme → Prop where
  | natural
      {digits : String}
      {n : Nat}
      {v : Int64}
      (number : Numeral.natural? digits.toList = some n)
      (value : v.toInt = n) :
      Phrase (.int v) [.number digits]
  | negative
      {digits : String}
      {n : Nat}
      {v : Int64}
      (number : Numeral.natural? digits.toList = some n)
      (value : v.toInt = -n) :
      Phrase (.int v) [.minus, .number digits]
  | text
      (bytes : List UInt8) :
      Phrase (.text bytes) [.text bytes]
  | column
      (name : String) :
      Phrase (.column name) [.identifier name]
  | call
      {name : String}
      {f : Func}
      {args : List Expr}
      {inner : List Lexeme}
      (known : CharClass.upper name = f.name)
      (arguments : Arguments args inner) :
      Phrase (.call f args)
        (.identifier name :: .leftParen ::
          (inner ++ [.rightParen]))

/- The lexemes of arguments, with commas between them. -/
inductive Arguments : List Expr → List Lexeme → Prop where
  | none :
      Arguments [] []
  | last
      {e : Expr}
      {ls : List Lexeme}
      (phrase : Phrase e ls) :
      Arguments [e] ls
  | more
      {e d : Expr}
      {es : List Expr}
      {ls ms : List Lexeme}
      (phrase : Phrase e ls)
      (others : Arguments (d :: es) ms) :
      Arguments (e :: d :: es) (ls ++ .comma :: ms)

end

end Expr

------------------------------------------------------------
-- Integers
------------------------------------------------------------

/- Every number among the lexemes starts with a digit. -/
def Lexeme.HasDigits
    (ls : List Lexeme) : Prop :=
  ∀ digits, .number digits ∈ ls →
    ∃ c cs, digits.toList = c :: cs ∧ isDigit c = true

/- Fewer lexemes have digits where more of them have. -/
theorem Lexeme.HasDigits.mono
    {ls ms : List Lexeme}
    (h : HasDigits ls)
    (hSub : ms ⊆ ls) :
    HasDigits ms := by
  intro digits hMember
  exact h digits (hSub hMember)

namespace Reading

variable {e : Expr}

/- The number of a reading is that of its digits. -/
theorem integer_eq_ok_iff
    {digits : String}
    {negative : Bool} :
    integer digits negative = .ok e ↔
      ∃ v, e = .int v ∧
        Numeral.int64?
            ((if negative then "-" ++ digits
              else digits).toList) =
          some v := by
  unfold integer
  dsimp only
  split
  · next v hValue =>
      simp only [hValue, Except.ok.injEq, Option.some.injEq]
      constructor
      · intro hEq
        exact ⟨v, hEq.symm, rfl⟩
      · rintro ⟨w, rfl, rfl⟩
        rfl
  · next hNone => simp [hNone]

/-
  Digits without a sign are a phrase for what they denote,
  as long as that fits into 64 bits.
-/
theorem integer_natural_iff
    {digits : String}
    (hDigits :
      ∃ c cs, digits.toList = c :: cs ∧ isDigit c = true) :
    integer digits false = .ok e ↔
      Expr.Phrase e [.number digits] := by
  rcases hDigits with ⟨c, cs, hList, hFirst⟩
  rw [integer_eq_ok_iff]
  constructor
  · rintro ⟨v, rfl, hValue⟩
    have hNumber : Numeral.int64? (c :: cs) = some v := by
      simpa [hList] using hValue
    rcases (Numeral.int64?_digit_eq_some_iff hFirst).mp
        hNumber with
      ⟨n, hNatural, hEq⟩
    exact .natural (hList ▸ hNatural) hEq
  · intro hPhrase
    cases hPhrase with
    | @natural _ n v number value =>
        refine ⟨v, rfl, ?_⟩
        rw [hList] at number
        have hNumber :=
          (Numeral.int64?_digit_eq_some_iff hFirst).mpr
            ⟨n, number, value⟩
        simpa [hList] using hNumber

/-
  Digits behind a minus are a phrase for the negative
  number, of which there is one more than of positive
  ones.
-/
theorem integer_negative_iff
    {digits : String} :
    integer digits true = .ok e ↔
      Expr.Phrase e [.minus, .number digits] := by
  have hSigned :
      ("-" ++ digits).toList = '-' :: digits.toList := by
    simp
  rw [integer_eq_ok_iff, if_pos rfl, hSigned]
  simp only [Numeral.int64?_minus_eq_some_iff]
  constructor
  · rintro ⟨v, rfl, hNe, hDigits, hValue⟩
    exact
      .negative
        (Numeral.natural?_eq_some_iff.mpr ⟨hNe, hDigits, rfl⟩)
        hValue
  · intro hPhrase
    cases hPhrase with
    | @negative _ n v number value =>
        rcases Numeral.natural?_eq_some_iff.mp number with
          ⟨hNe, hDigits, rfl⟩
        exact ⟨v, rfl, hNe, hDigits, value⟩

------------------------------------------------------------
-- Steps Of Readings
------------------------------------------------------------

/- A reading succeeds with a result and leaves lexemes. -/
def Gives
    {α : Type}
    {before : List Lexeme}
    (r : Reading α before)
    (a : α)
    (rest : List Lexeme) : Prop :=
  r.result = .ok a ∧ r.rest = rest

variable {limit depth : Nat}
variable {ls rest : List Lexeme}
variable {es : List Expr}

/- All the ways to read an expression. -/
theorem expression_gives_iff :
    (expression limit depth ls).Gives e rest ↔
      (∃ digits, ls = .number digits :: rest ∧
        integer digits false = .ok e) ∨
      (∃ digits, ls = .minus :: .number digits :: rest ∧
        integer digits true = .ok e) ∨
      (∃ bytes, ls = .text bytes :: rest ∧
        e = .text bytes) ∨
      (∃ name, ls = .identifier name :: rest ∧
        (∀ inner, rest ≠ .leftParen :: inner) ∧
        e = .column name) ∨
      ∃ name f args inner,
        ls = .identifier name :: .leftParen :: inner ∧
        depth < limit ∧ Func.ofName? name = some f ∧
        (arguments limit (depth + 1) inner).Gives args rest ∧
        e = .call f args := by
  unfold expression Gives
  split
  · simp [and_comm]
  · simp [and_comm]
  · next after hNoNumber =>
      have hOther :
          ∀ digits, after ≠ .number digits :: rest :=
        fun digits => hNoNumber digits rest
      simp [hOther]
  · simp [and_comm, eq_comm]
  · next name inner =>
      -- The parenthesis rules out that a column is read.
      have hNoColumn :
          ¬ (Lexeme.leftParen :: inner = rest ∧
            ∀ others, rest ≠ .leftParen :: others) := by
        rintro ⟨rfl, hOther⟩
        exact hOther inner rfl
      by_cases hDepth : limit < depth + 1
      · have hDeep : ¬ depth < limit := by omega
        grind
      · have hShallow : depth < limit := by omega
        cases hName : Func.ofName? name with
        | none => grind
        | some f => grind [Steps.map_eq_ok_iff]
  · next name after hNoCall => grind
  · grind

/- The last argument comes before a parenthesis. -/
theorem moreArguments_gives_iff :
    (moreArguments limit depth ls).Gives es rest ↔
      ∃ e after,
        (expression limit depth ls).Gives e after ∧
        ((after = .rightParen :: rest ∧ es = [e]) ∨
          ∃ others next, after = .comma :: others ∧
            (moreArguments limit depth others).Gives next
              rest ∧
            es = e :: next) := by
  rw [moreArguments]
  unfold Gives
  dsimp only
  split
  · next hError => simp [hError]
  · next e hFirst =>
      simp only [hFirst, Except.ok.injEq]
      split
      · next others hRest => grind [Steps.map_eq_ok_iff]
      · next after hRest => grind
      · next hNoComma hNoParen => grind

/- Arguments are none, or one and more behind commas. -/
theorem arguments_gives_iff :
    (arguments limit depth ls).Gives es rest ↔
      (es = [] ∧ ls = .rightParen :: rest) ∨
        (moreArguments limit depth ls).Gives es rest := by
  unfold arguments
  split
  · next after =>
      -- No argument starts with the closing parenthesis.
      have hNoMore :
          ¬ (moreArguments limit depth
              (.rightParen :: after)).Gives es rest := by
        rw [moreArguments_gives_iff]
        rintro ⟨e, others, hFirst, _⟩
        rw [expression_gives_iff] at hFirst
        simp at hFirst
      rw [or_iff_left hNoMore]
      simp [Gives, eq_comm]
  · next hOther =>
      have hNoNone :
          ¬ (es = [] ∧ ls = .rightParen :: rest) := by
        rintro ⟨_, rfl⟩
        exact hOther rest rfl
      rw [or_iff_right hNoNone]

------------------------------------------------------------
-- Readings Of Phrases
------------------------------------------------------------

open PartitionPruning.Expr (Phrase Arguments)

/- An integer is read off its digits. -/
theorem expression_gives_int_iff
    {v : Int64}
    (hDigits : Lexeme.HasDigits ls) :
    (expression limit depth ls).Gives (.int v) rest ↔
      ∃ front, ls = front ++ rest ∧ Phrase (.int v) front := by
  simp only [expression_gives_iff, reduceCtorEq, and_false,
    exists_false, or_false]
  constructor
  · rintro (⟨digits, rfl, hInteger⟩ | ⟨digits, rfl, hInteger⟩)
    · have hFirst := hDigits digits (by simp)
      exact
        ⟨[.number digits], rfl,
          (integer_natural_iff hFirst).mp hInteger⟩
    · exact
        ⟨[.minus, .number digits], rfl,
          integer_negative_iff.mp hInteger⟩
  · rintro ⟨front, rfl, hPhrase⟩
    cases hPhrase with
    | @natural digits n _ number value =>
        have hFirst := hDigits digits (by simp)
        have hInteger :=
          (integer_natural_iff hFirst).mpr
            (.natural number value)
        exact .inl ⟨digits, rfl, hInteger⟩
    | @negative digits n _ number value =>
        have hInteger :=
          integer_negative_iff.mpr (.negative number value)
        exact .inr ⟨digits, rfl, hInteger⟩

/- A string is one lexeme, whatever follows it. -/
theorem expression_gives_text_iff
    {bytes : List UInt8} :
    (expression limit depth ls).Gives (.text bytes) rest ↔
      ls = .text bytes :: rest := by
  simp [expression_gives_iff, integer_eq_ok_iff]

/- A name is a column unless a parenthesis follows it. -/
theorem expression_gives_column_iff
    {name : String} :
    (expression limit depth ls).Gives (.column name) rest ↔
      ls = .identifier name :: rest ∧
        ∀ inner, rest ≠ .leftParen :: inner := by
  simp [expression_gives_iff, integer_eq_ok_iff]

/-
  A call needs a function of the name, in any case, and
  room for one more level of nesting.
-/
theorem expression_gives_call_iff
    {f : Func}
    {args : List Expr} :
    (expression limit depth ls).Gives (.call f args) rest ↔
      ∃ name inner,
        ls = .identifier name :: .leftParen :: inner ∧
        depth < limit ∧ CharClass.upper name = f.name ∧
        (arguments limit (depth + 1) inner).Gives args
          rest := by
  simp [expression_gives_iff, integer_eq_ok_iff,
    Func.ofName?_eq_some_iff]

/- An opening parenthesis would make the column a call. -/
def EndsBefore
    (e : Expr)
    (rest : List Lexeme) : Prop :=
  ∀ name, e = .column name →
    ∀ inner, rest ≠ .leftParen :: inner

/- Any lexeme but an opening parenthesis ends a column. -/
theorem endsBefore_cons
    {l : Lexeme}
    (h : l ≠ .leftParen) :
    EndsBefore e (l :: rest) := by
  intro _ _ inner hEq
  cases hEq
  exact h rfl

/- Every argument is inside the calls around the first. -/
theorem add_depthOfArgs_cons_le_iff :
    depth + Expr.depthOfArgs (e :: es) ≤ limit ↔
      depth + e.depth ≤ limit ∧
        depth + Expr.depthOfArgs es ≤ limit := by
  have hMax :
      Expr.depthOfArgs (e :: es) =
        max e.depth (Expr.depthOfArgs es) :=
    rfl
  rw [hMax]
  omega

/-
  Arguments are read exactly off their lexemes, where this
  is so for one argument or more.
-/
theorem arguments_gives_iff_of_more
    (hDepth : depth ≤ limit)
    (hMore :
      (moreArguments limit depth ls).Gives es rest ↔
        es ≠ [] ∧ ∃ front, ls = front ++ .rightParen :: rest ∧
          Arguments es front ∧
          depth + Expr.depthOfArgs es ≤ limit) :
    (arguments limit depth ls).Gives es rest ↔
      ∃ front, ls = front ++ .rightParen :: rest ∧
        Arguments es front ∧
        depth + Expr.depthOfArgs es ≤ limit := by
  rw [arguments_gives_iff, hMore]
  cases es with
  | cons e es => simp
  | nil =>
      constructor
      · rintro (⟨_, rfl⟩ | ⟨hNe, _⟩)
        · exact ⟨[], rfl, .none, hDepth⟩
        · exact absurd rfl hNe
      · rintro ⟨front, rfl, hNone, _⟩
        cases hNone
        exact .inl ⟨rfl, rfl⟩

mutual

/-
  An expression is read exactly off its phrases, where its
  calls are not nested too deep.
-/
theorem expression_gives_iff_phrase
    {limit depth : Nat}
    {ls rest : List Lexeme}
    (hDigits : Lexeme.HasDigits ls)
    (hDepth : depth ≤ limit) :
    (e : Expr) →
      ((expression limit depth ls).Gives e rest ↔
        ∃ front, ls = front ++ rest ∧ Phrase e front ∧
          depth + e.depth ≤ limit ∧ EndsBefore e rest)
  | .int v => by
      rw [expression_gives_int_iff hDigits]
      simp [Expr.depth, hDepth, EndsBefore]
  | .text bytes => by
      rw [expression_gives_text_iff]
      constructor
      · rintro rfl
        refine ⟨[.text bytes], rfl, .text bytes, hDepth, ?_⟩
        simp [EndsBefore]
      · rintro ⟨front, rfl, hPhrase, _⟩
        cases hPhrase
        rfl
  | .column name => by
      rw [expression_gives_column_iff]
      constructor
      · rintro ⟨rfl, hAfter⟩
        exact
          ⟨[.identifier name], rfl, .column name, hDepth,
            fun _ _ => hAfter⟩
      · rintro ⟨front, rfl, hPhrase, _, hEnds⟩
        cases hPhrase
        exact ⟨rfl, hEnds name rfl⟩
  | .call f args => by
      -- The arguments are read inside one more call, so that
      -- their depth is counted from `depth + 1`.
      rw [expression_gives_call_iff]
      constructor
      · rintro ⟨name, inner, rfl, hLt, hName, hArgs⟩
        have hInner : Lexeme.HasDigits inner :=
          hDigits.mono (by simp)
        rw [arguments_gives_iff_of_more hLt
          (moreArguments_gives_iff_phrase hInner hLt args)]
          at hArgs
        rcases hArgs with ⟨front, rfl, hArguments, hNested⟩
        refine
          ⟨_, ?_, .call hName hArguments, ?_, by
            simp [EndsBefore]⟩
        · simp
        · rw [Expr.depth]
          omega
      · rintro ⟨front, rfl, hPhrase, hNested, _⟩
        rw [Expr.depth] at hNested
        have hLt : depth < limit := by omega
        cases hPhrase with
        | @call name _ _ inner known arguments =>
            have hInner :
                Lexeme.HasDigits
                  (inner ++ .rightParen :: rest) :=
              hDigits.mono (by simp)
            refine
              ⟨name, inner ++ .rightParen :: rest, by simp,
                hLt, known, ?_⟩
            rw [arguments_gives_iff_of_more hLt
              (moreArguments_gives_iff_phrase hInner hLt args)]
            exact ⟨inner, rfl, arguments, by omega⟩

/-
  Arguments up to a closing parenthesis. The recursion is
  on the arguments, and on each of them for its own
  phrase.
-/
theorem moreArguments_gives_iff_phrase
    {limit depth : Nat}
    {ls rest : List Lexeme}
    (hDigits : Lexeme.HasDigits ls)
    (hDepth : depth ≤ limit) :
    (es : List Expr) →
      ((moreArguments limit depth ls).Gives es rest ↔
        es ≠ [] ∧ ∃ front, ls = front ++ .rightParen :: rest ∧
          Arguments es front ∧
          depth + Expr.depthOfArgs es ≤ limit)
  | [] => by
      rw [moreArguments_gives_iff]
      simp
  | e :: es => by
      -- What follows the first argument tells whether it is
      -- the last: a parenthesis, or a comma and the others.
      rw [moreArguments_gives_iff]
      simp only [add_depthOfArgs_cons_le_iff]
      constructor
      · rintro ⟨_, after, hFirst, hNext⟩
        rcases hNext with
          ⟨rfl, hLast⟩ | ⟨others, next, rfl, hMore, hEq⟩
        · cases hLast
          rw [expression_gives_iff_phrase hDigits hDepth]
            at hFirst
          rcases hFirst with ⟨front, rfl, hPhrase, hNested, _⟩
          exact
            ⟨by simp, front, rfl, .last hPhrase, hNested,
              hDepth⟩
        · cases hEq
          rw [expression_gives_iff_phrase hDigits hDepth]
            at hFirst
          rcases hFirst with ⟨front, rfl, hPhrase, hNested, _⟩
          have hOthers : Lexeme.HasDigits others :=
            hDigits.mono (by simp)
          rw [moreArguments_gives_iff_phrase hOthers hDepth]
            at hMore
          rcases hMore with
            ⟨hNe, back, rfl, hArguments, hDeep⟩
          refine
            ⟨by simp, front ++ .comma :: back, by simp, ?_,
              hNested, hDeep⟩
          cases es with
          | nil => exact absurd rfl hNe
          | cons d ds => exact .more hPhrase hArguments
      · rintro ⟨_, front, rfl, hArguments, hNested, hDeep⟩
        cases hArguments with
        | last phrase =>
            refine ⟨e, .rightParen :: rest, ?_, .inl ⟨rfl, rfl⟩⟩
            rw [expression_gives_iff_phrase hDigits hDepth]
            exact
              ⟨front, rfl, phrase, hNested,
                endsBefore_cons (by simp)⟩
        | @more _ d ds first others phrase arguments =>
            have hOthers :
                Lexeme.HasDigits
                  (others ++ .rightParen :: rest) :=
              hDigits.mono (by simp)
            refine
              ⟨e, .comma :: (others ++ .rightParen :: rest), ?_,
                .inr
                  ⟨others ++ .rightParen :: rest, d :: ds, rfl,
                    ?_, rfl⟩⟩
            · rw [expression_gives_iff_phrase hDigits hDepth]
              exact
                ⟨first, by simp, phrase, hNested,
                  endsBefore_cons (by simp)⟩
            · rw [moreArguments_gives_iff_phrase hOthers hDepth]
              exact ⟨by simp, others, rfl, arguments, hDeep⟩

end

/- A whole reading is an expression and then the end. -/
theorem whole_eq_ok_iff :
    (whole limit ls).result = .ok e ↔
      (expression limit 0 ls).result = .ok e ∧
        current (expression limit 0 ls).rest = .eof := by
  unfold whole
  cases hResult : (expression limit 0 ls).result with
  | error cause => simp [hResult]
  | ok e' =>
      by_cases hEnd :
          current (expression limit 0 ls).rest = .eof
      · simp [hResult, hEnd]
      · simp [hResult, hEnd]

end Reading

end PartitionPruning
