import PartitionPruning.Proofs.Statement.DefaultTexts
import PartitionPruning.Proofs.Value.Stored

/-
  Defaults that are read without being parsed.

  A default text that is an expression has the value of the
  expression exactly if it is of a plain form.

  Key definitions include:
    * `Evaluator.KeepsLiterals`

  Main declarations:
    * `Statement.textDefault_quote`
    * `Statement.textDefault_minus`
    * `Statement.textDefault_digit`
    * `Statement.textDefault_other`
    * `Statement.defaultValue_eq_evaluate_iff`
-/

namespace PartitionPruning

open CharClass (isBlank isDigit)

------------------------------------------------------------
-- Defaults And Expressions
------------------------------------------------------------

/- The evaluator gives literals their own values. -/
def Evaluator.KeepsLiterals
    (ev : Evaluator) : Prop :=
  ∀ scope : Scope,
    (∀ v, ev scope (.int v) = .ok [.int v]) ∧
      ∀ bytes,
        ev scope (.text bytes) =
          .ok [.text bytes scope.collation]

theorem Evaluator.keepsLiterals_builtin :
    builtin.KeepsLiterals :=
  fun _ => ⟨fun _ => rfl, fun _ => rfl⟩

namespace Statement

open DefaultText

variable {s : Statement}
variable {ev : Evaluator}
variable {cs : List Char}
variable {e : Expr}

/- An integer is evaluated to itself. -/
theorem evaluate_int
    (hEv : ev.KeepsLiterals)
    (v : Int64) :
    s.evaluate ev (.int v) = .ok (.int v) := by
  rw [evaluate, (hEv s.scope).1 v]

/-
  A string is evaluated to itself, under the collation of
  the configuration.
-/
theorem evaluate_text
    (hEv : ev.KeepsLiterals)
    (bytes : List UInt8) :
    s.evaluate ev (.text bytes) =
      .ok (.text bytes s.config.collation) := by
  rw [evaluate, (hEv s.scope).2 bytes]
  rfl

/-
  A text that starts with a quote loses its first and its
  last byte, whatever the last one is.
-/
theorem textDefault_quote
    (s : Statement)
    (ev : Evaluator)
    (cs : List Char) :
    s.textDefault ev (Utf8.encode ('\'' :: cs)) =
      .ok (.text (Utf8.encode cs).dropLast
        s.config.collation) :=
  rfl

/-
  What looks like a number is taken for one before it is
  read as an expression.
-/
theorem textDefault_numeral
    {text : List UInt8}
    (h : isNumeral text = true) :
    s.textDefault ev text =
      .ok (numeral s.config.collation text) := by
  rcases exists_cons_of_isNumeral h with
    ⟨b, rest, rfl, hQuote⟩
  rw [textDefault, if_neg hQuote, if_pos h]

/- A text that no shortcut takes is parsed. -/
theorem textDefault_parsed
    {b : UInt8}
    {bytes : List UInt8}
    (hText : Utf8.encode cs = b :: bytes)
    (hParse :
      Expr.parse s.config.maxDepth.toNat cs = .ok e)
    (hQuote : b ≠ 0x27)
    (hNumeral : ¬ isNumeral (b :: bytes) = true)
    (hMinus : ¬ (b = 0x2D ∧ 3 ≤ bytes.length)) :
    s.textDefault ev (b :: bytes) = s.evaluate ev e := by
  rw [textDefault, if_neg hQuote, if_neg hNumeral,
    if_neg hMinus, ← hText, Utf8.decode_encode]
  dsimp only
  rw [hParse]

/-
  A negative numeral is read with its own value exactly if
  it is tight.
-/
theorem textDefault_minus
    {gap digits after : List Char}
    {v : Int64}
    (hEv : ev.KeepsLiterals)
    (hGap : gap.all isBlank = true)
    (hAfter : after.all isBlank = true)
    (hValue : Numeral.int64? ('-' :: digits) = some v)
    (hParse :
      Expr.parse s.config.maxDepth.toNat
          ('-' :: (gap ++ (digits ++ after))) =
        .ok (.int v)) :
    s.textDefault ev
        (Utf8.encode ('-' :: (gap ++ (digits ++ after)))) =
        .ok (.int v) ↔
      Tight gap digits after := by
  rcases Numeral.int64?_minus_eq_some_iff.mp hValue with
    ⟨hNe, hDigits, _⟩
  have hText :
      Utf8.encode ('-' :: (gap ++ (digits ++ after))) =
        0x2D :: Utf8.encode (gap ++ (digits ++ after)) := rfl
  rw [hText]
  by_cases hOpen : gap = [] ∧ after = []
  · rcases hOpen with ⟨rfl, rfl⟩
    have hNumeral := isNumeral_minus hNe hDigits
    have hTight : Tight [] digits [] :=
      Or.inl ⟨rfl, Nat.zero_le 1⟩
    have hInt :
        numeral s.config.collation
            (0x2D :: Utf8.encode digits) =
          .int v :=
      numeral_minus_eq_int_iff.mpr ⟨digits, rfl, hValue⟩
    rw [List.nil_append, List.append_nil,
      textDefault_numeral hNumeral, hInt]
    exact iff_of_true rfl hTight
  · have hNumeral :
        ¬ isNumeral
            (0x2D :: Utf8.encode (gap ++ (digits ++ after))) =
          true := by
      intro hNumeral
      exact hOpen
        ⟨eq_nil_of_isNumeral hNumeral hGap (by simp),
          eq_nil_of_isNumeral hNumeral hAfter (by simp)⟩
    by_cases hLength :
        3 ≤ (Utf8.encode (gap ++ (digits ++ after))).length
    · rw [textDefault, if_neg (by decide), if_neg hNumeral,
        if_pos ⟨rfl, hLength⟩,
        ← numeral_stripped_iff hGap hAfter hValue hOpen
          hLength,
        Except.ok.injEq]
    · have hParsed :
          s.textDefault ev
              (0x2D :: Utf8.encode
                (gap ++ (digits ++ after))) =
            .ok (.int v) := by
        rw [textDefault_parsed hText hParse (by decide)
          hNumeral (by simp [hLength]), evaluate_int hEv]
      exact iff_of_true hParsed
        (tight_of_length_lt hNe hDigits hOpen (by omega))

/- A numeral from a digit on is read with its number. -/
theorem textDefault_digit
    {c : Char}
    (hEv : ev.KeepsLiterals)
    (hDigit : isDigit c = true)
    (hNumeral : isNumeral (Utf8.encode (c :: cs)) = true)
    (hParse :
      Expr.parse s.config.maxDepth.toNat (c :: cs) = .ok e) :
    s.textDefault ev (Utf8.encode (c :: cs)) =
      s.evaluate ev e := by
  have hRange := CharClass.isDigit_iff.mp hDigit
  have hText :
      Utf8.encode (c :: cs) =
        Utf8.asciiByte c :: Utf8.encode cs := by
    rw [Utf8.encode_cons, Utf8.encodeChar_ascii (by omega),
      List.singleton_append]
  rcases Expr.parse_digit hParse hDigit with
    ⟨digits, after, v, hBlank, rfl, hValue, rfl⟩
  have hEnd : after = [] := by
    rw [hText] at hNumeral
    exact eq_nil_of_isNumeral hNumeral hBlank (by simp)
  have hInt :
      numeral s.config.collation
          (Utf8.encode (c :: (digits ++ after))) =
        .int v := by
    refine numeral_eq_int_iff.mpr
      ⟨c :: (digits ++ after), rfl, ?_⟩
    rw [hEnd, List.append_nil]
    exact hValue
  rw [textDefault_numeral hNumeral, hInt, evaluate_int hEv]

/-
  A text that starts with neither a quote nor a minus is
  read as it is parsed.
-/
theorem textDefault_other
    {c : Char}
    (hEv : ev.KeepsLiterals)
    (hQuote : c ≠ '\'')
    (hMinus : c ≠ '-')
    (hParse :
      Expr.parse s.config.maxDepth.toNat (c :: cs) = .ok e) :
    s.textDefault ev (Utf8.encode (c :: cs)) =
      s.evaluate ev e := by
  rcases Utf8.head_encodeChar c [] with ⟨b, tail, hBytes, _⟩
  have hMember : b ∈ String.utf8EncodeChar c := by
    rw [hBytes]
    exact List.mem_cons_self
  have hText :
      Utf8.encode (c :: cs) = b :: (tail ++ Utf8.encode cs) := by
    rw [Utf8.encode_cons, hBytes, List.cons_append]
  have hFirst {d : Char}
      (hSize : d.toNat < 0x80)
      (hByte : b = Utf8.asciiByte d) :
      c = d := by
    rw [hByte] at hText
    rcases Utf8.eq_cons_of_encode hSize hText with
      ⟨_, hSame, _⟩
    exact (List.cons.inj hSame).1
  have hNoQuote : b ≠ 0x27 := fun hByte =>
    hQuote (hFirst (d := '\'') (by decide) hByte)
  have hNoMinus : b ≠ 0x2D := fun hByte =>
    hMinus (hFirst (d := '-') (by decide) hByte)
  rw [hText]
  by_cases hNumeral :
      isNumeral (b :: (tail ++ Utf8.encode cs)) = true
  · have hNoPlus : b ≠ 0x2B := fun hByte =>
      Expr.parse_sign
        (Or.inl (hFirst (d := '+') (by decide) hByte)) hParse
    have hUnsigned :
        unsigned (b :: (tail ++ Utf8.encode cs)) =
          b :: (tail ++ Utf8.encode cs) := by
      rw [unsigned, if_neg (not_or.mpr ⟨hNoMinus, hNoPlus⟩)]
    rcases mem_of_isNumeral hNumeral
        (hUnsigned ▸ List.mem_cons_self) with
      hPoint | hDigitByte
    · exact absurd hParse
        (Expr.parse_sign
          (Or.inr (hFirst (d := '.') (by decide) hPoint)))
    · have hRange := isDigitByte_iff.mp hDigitByte
      have hNumber :=
        (Utf8.eq_of_mem_encodeChar hMember (by omega)).2
      have hDigit : isDigit c = true := by
        rw [CharClass.isDigit_iff, hNumber]
        exact hRange
      rw [← hText] at hNumeral ⊢
      exact textDefault_digit hEv hDigit hNumeral hParse
  · exact textDefault_parsed hText hParse hNoQuote hNumeral
      fun h => hNoMinus h.1

/- A stored text is read as a default text. -/
theorem defaultValue_eq_textDefault
    {c : Collation}
    {stored bytes : List UInt8}
    (hDialect : s.schema.dialect = .oracle)
    (hStored : (Value.text bytes c).store = .ok stored) :
    s.defaultValue ev stored =
      (s.textDefault ev bytes).map
        (·.withCollation s.session.collation) := by
  have hLoad : Value.load stored = .ok (.text bytes c) := by
    have hAppend := Value.load_of_store_text hStored []
    rwa [List.append_nil] at hAppend
  have hSome : stored.isEmpty = false := by
    rcases Value.store_text_eq_ok_iff.mp hStored with ⟨_, rfl⟩
    rfl
  rw [← Steps.bind_ok]
  simp only [defaultValue, hSome, Bool.false_eq_true,
    if_false, hLoad, hDialect]

/- The session's collation changes no integer. -/
theorem map_withCollation_eq_int_iff
    {outcome : Except Failure Value}
    {c : Collation}
    {v : Int64} :
    outcome.map (·.withCollation c) = .ok (.int v) ↔
      outcome = .ok (.int v) := by
  cases outcome with
  | error cause => simp [Except.map]
  | ok w => cases w <;> simp [Except.map, Value.withCollation]

/-
  A default text that is an expression is read with the
  outcome of the expression exactly if it is of a plain
  form.
-/
theorem defaultValue_eq_evaluate_iff
    {c : Collation}
    {stored : List UInt8}
    (hDialect : s.schema.dialect = .oracle)
    (hEv : ev.KeepsLiterals)
    (hParse :
      Expr.parse s.config.maxDepth.toNat cs = .ok e)
    (hStored :
      (Value.text (Utf8.encode cs) c).store = .ok stored) :
    s.defaultValue ev stored =
        (s.evaluate ev e).map
          (·.withCollation s.session.collation) ↔
      ReadsAlike cs := by
  rw [defaultValue_eq_textDefault hDialect hStored]
  cases cs with
  | nil => exact absurd hParse Expr.parse_nil
  | cons c cs =>
      by_cases hQuote : c = '\''
      · subst hQuote
        rcases Expr.parse_quote hParse with
          ⟨content, after, hBlank, rfl, rfl⟩
        rw [readsAlike_quote_iff hBlank, ← dropLast_quoted_iff,
          textDefault_quote, evaluate_text hEv]
        simp [Except.map, Value.withCollation]
      · by_cases hMinus : c = '-'
        · subst hMinus
          rcases Expr.parse_minus hParse with
            ⟨gap, digits, after, v, hGap, hAfter, rfl, hValue,
              rfl⟩
          rcases Numeral.int64?_minus_eq_some_iff.mp hValue with
            ⟨hNe, hDigits, _⟩
          rw [readsAlike_minus_iff hGap hAfter hNe hDigits,
            ← textDefault_minus hEv hGap hAfter hValue hParse,
            evaluate_int hEv, ← map_withCollation_eq_int_iff]
          rfl
        · have hAlike : ReadsAlike (c :: cs) := by
            simp [ReadsAlike, hQuote, hMinus]
          rw [textDefault_other hEv hQuote hMinus hParse]
          exact iff_of_true rfl hAlike

/- A statement whose defaults are given by their texts. -/
def textDefaults : Statement where
  config := default
  predicates? := some []
  schema := ⟨.one, ["code"], [], [], .oracle⟩
  session := Session.ofCollation ⟨46⟩
  request := default
  prepared? := none
  fields := default
  isInsert := true

/- A negative numeral with white space before and after. -/
def spacedText : List Char :=
  ['-', ' ', '4', '2', ' ']

/- The numeral as it is stored. -/
def storedSpaced : List UInt8 :=
  [2, 45, 0, 5, 0, 0, 0, 0x2D, 0x20, 0x34, 0x32, 0x20]

theorem parse_spacedText :
    Expr.parse 32 spacedText = .ok (.int (-42)) :=
  have hBlank : [' '].all isBlank = true := by decide +kernel
  have hValue : Numeral.int64? ['-', '4', '2'] = some (-42) :=
    by decide +kernel
  Expr.parse_negative 32 hBlank hBlank hValue

theorem defaultValue_spacedText :
    textDefaults.schema.dialect = .oracle ∧
      Evaluator.builtin.KeepsLiterals ∧
      Expr.parse textDefaults.config.maxDepth.toNat
          spacedText =
        .ok (.int (-42)) ∧
      (Value.text (Utf8.encode spacedText) ⟨45⟩).store =
        .ok storedSpaced ∧
      textDefaults.defaultValue .builtin storedSpaced =
        (textDefaults.evaluate .builtin (.int (-42))).map
          (·.withCollation textDefaults.session.collation) :=
  have hParse :
      Expr.parse textDefaults.config.maxDepth.toNat
          spacedText =
        .ok (.int (-42)) := parse_spacedText
  have hStored :
      (Value.text (Utf8.encode spacedText) ⟨45⟩).store =
        .ok storedSpaced := rfl
  have hAlike : ReadsAlike spacedText := by
    decide +kernel
  ⟨rfl, Evaluator.keepsLiterals_builtin, hParse, hStored,
    (defaultValue_eq_evaluate_iff rfl
      Evaluator.keepsLiterals_builtin hParse
      hStored).mpr hAlike⟩

/- A negative numeral with white space after it. -/
def trailingText : List Char :=
  ['-', '1', '2', ' ']

/- The numeral as it is stored. -/
def storedTrailing : List UInt8 :=
  [2, 45, 0, 4, 0, 0, 0, 0x2D, 0x31, 0x32, 0x20]

theorem parse_trailingText :
    Expr.parse 32 trailingText = .ok (.int (-12)) :=
  have hBlank : [' '].all isBlank = true := by decide +kernel
  have hValue : Numeral.int64? ['-', '1', '2'] = some (-12) :=
    by decide +kernel
  Expr.parse_negative 32 List.all_nil hBlank hValue

/- A string with a doubled quote in it. -/
def quotedText : List Char :=
  ['\'', 'a', '\'', '\'', 'b', '\'']

/- The string as it is stored. -/
def storedQuoted : List UInt8 :=
  [2, 45, 0, 6, 0, 0, 0, 0x27, 0x61, 0x27, 0x27, 0x62, 0x27]

theorem parse_quotedText :
    Expr.parse 32 quotedText =
      .ok (.text [0x61, 0x27, 0x62]) :=
  Expr.parse_string 32 ['a', '\'', 'b'] List.all_nil

/-
  As a default the numeral loses its first digit, and the
  string has two quotes where the expression has one.
-/
theorem defaultValue_ne_evaluate :
    (Expr.parse textDefaults.config.maxDepth.toNat
          trailingText =
        .ok (.int (-12)) ∧
      (Value.text (Utf8.encode trailingText) ⟨45⟩).store =
        .ok storedTrailing ∧
      textDefaults.defaultValue .builtin storedTrailing =
        .ok (.int (-2)) ∧
      textDefaults.evaluate .builtin (.int (-12)) =
        .ok (.int (-12))) ∧
    Expr.parse textDefaults.config.maxDepth.toNat
          quotedText =
        .ok (.text [0x61, 0x27, 0x62]) ∧
      (Value.text (Utf8.encode quotedText) ⟨45⟩).store =
        .ok storedQuoted ∧
      textDefaults.defaultValue .builtin storedQuoted =
        .ok (.text [0x61, 0x27, 0x27, 0x62] ⟨46⟩) ∧
      textDefaults.evaluate .builtin
          (.text [0x61, 0x27, 0x62]) =
        .ok (.text [0x61, 0x27, 0x62] ⟨45⟩) := by
  have hNumber :
      numeral ⟨45⟩ [0x2D, 0x32] = .int (-2) :=
    numeral_minus_eq_int_iff.mpr ⟨['2'], rfl, by decide⟩
  have hTrailing :
      textDefaults.defaultValue .builtin storedTrailing =
        .ok ((numeral ⟨45⟩ [0x2D, 0x32]).withCollation ⟨46⟩) :=
    rfl
  rw [hNumber] at hTrailing
  exact
    ⟨⟨parse_trailingText, rfl, hTrailing, rfl⟩,
      parse_quotedText, rfl, rfl, rfl⟩

end Statement

end PartitionPruning
