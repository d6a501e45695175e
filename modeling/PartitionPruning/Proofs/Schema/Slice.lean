import PartitionPruning.Expr.Eval
import PartitionPruning.Proofs.Bytes.Prefix
import PartitionPruning.Proofs.Steps
import PartitionPruning.Schema.Derivation

/-
  Slices of texts.

  A generated column holds a slice of its source, as the
  evaluator takes it.  A predicate on the source bounds the
  column by the same slice of the predicate's operand, or by
  the operand itself where the slice does not lie in it.

  Key definitions include:
    * `Slice`
    * `Slice.IsGivenBy`
    * `Slice.value`
    * `Slice.bound`

  Agreement with the evaluator and with the derivation:
    * `Slice.eval_call`
    * `Slice.eval_expr`
    * `PartKey.derive_eq_bound`
-/

namespace PartitionPruning

variable {x v : List UInt8}

------------------------------------------------------------
-- Operands
------------------------------------------------------------

namespace Value

theorem isNull_of_text?
    {w : Value}
    (h : w.text? = some x) :
    w.isNull = false := by
  cases w with
  | null => cases h
  | _ => rfl

theorem isNull_of_int?
    {w : Value}
    {i : Int64}
    (h : w.int? = some i) :
    w.isNull = false := by
  cases w with
  | null => cases h
  | _ => rfl

end Value

/-
  The value of an expression is an integer, or a string that
  spells it.
-/
def Expr.GivesInt
    (e : Expr)
    (scope : Scope)
    (i : Int64) : Prop :=
  ∃ w, e.eval scope = .ok w ∧ w.int? = some i

------------------------------------------------------------
-- Slices
------------------------------------------------------------

/-
  A substring as a dialect reads it: from a start on, and of
  a length at most.
-/
structure Slice where
  dialect : Dialect
  start : Int64
  length? : Option Int64
deriving DecidableEq

namespace Slice

open PartitionPruning.Derivation (Inside)

/- The function that generates a column as a slice of another. -/
def generator
    (s : Slice)
    (column : String) : Generator :=
  .substring column (some s.start) s.length?

/- The slice of a text as an expression. -/
def expr
    (s : Slice)
    (x : List UInt8) : Expr :=
  .call .substr
    (.text x :: .int s.start ::
      (s.length?.map Expr.int).toList)

/-
  The arguments after the text that have the slice's start
  and, where it has one, its length for their values.
-/
inductive IsGivenBy
    (s : Slice)
    (scope : Scope) : List Expr → Prop where
  | rest {start : Expr}
      (hLength : s.length? = none)
      (hStart : start.GivesInt scope s.start) :
      IsGivenBy s scope [start]
  | part {start length : Expr} {n : Int64}
      (hLength : s.length? = some n)
      (hStart : start.GivesInt scope s.start)
      (hCount : length.GivesInt scope n) :
      IsGivenBy s scope [start, length]

/- The position where the slice starts in so many bytes. -/
def position
    (s : Slice)
    (size : Nat) : Int :=
  s.dialect.position size s.start.toInt

/- At most as many bytes as the slice is long. -/
def shorten
    (s : Slice)
    (x : List UInt8) : List UInt8 :=
  match s.length? with
  | none => x
  | some n => x.take n.toInt.toNat

/- The slice of a text, empty where it starts outside. -/
def value
    (s : Slice)
    (x : List UInt8) : List UInt8 :=
  if Inside x.length (s.position x.length) then
    s.shorten (x.drop (s.position x.length - 1).toNat)
  else []

/- The slice lies in so many bytes, start and length. -/
def Fits
    (s : Slice)
    (size : Nat) : Prop :=
  Inside size (s.position size) ∧
    ∀ n ∈ s.length?, Inside size n.toInt

instance
    (s : Slice)
    (size : Nat) :
    Decidable (s.Fits size) :=
  @instDecidableAnd _ _ inferInstance
    (Option.decidableForallMem s.length?)

/-
  The operand of a bound on the column: the slice of the
  operand of a predicate on the source, where it fits.
-/
def bound
    (s : Slice)
    (v : List UInt8) : List UInt8 :=
  if s.Fits v.length then s.value v else v

variable {s : Slice}

------------------------------------------------------------
-- Shortened Texts
------------------------------------------------------------

/- What is cut off at the end makes a text no greater. -/
theorem shorten_le
    (s : Slice)
    (x : List UInt8) :
    s.shorten x ≤ x := by
  unfold shorten
  split
  · exact List.le_refl x
  · exact Prefix.take_le x _

theorem length_shorten_le
    (s : Slice)
    (x : List UInt8) :
    (s.shorten x).length ≤ x.length := by
  unfold shorten
  split
  · exact Nat.le_refl x.length
  · exact List.length_take_le' _ x

/- Cutting at one length keeps the order of texts. -/
theorem shorten_le_shorten
    (s : Slice)
    (h : x ≤ v) :
    s.shorten x ≤ s.shorten v := by
  unfold shorten
  split
  · exact h
  · exact Prefix.take_le_take h _

/- Nothing is cut off a text that is short enough. -/
theorem shorten_eq_self
    (h : ∀ n ∈ s.length?, (v.length : Int) ≤ n.toInt) :
    s.shorten v = v := by
  unfold shorten
  split
  · rfl
  · next n hLength =>
      have hShort := h n hLength
      apply List.take_of_length_le
      omega

/- Nothing is cut off twice. -/
@[simp]
theorem shorten_shorten
    (s : Slice)
    (x : List UInt8) :
    s.shorten (s.shorten x) = s.shorten x := by
  unfold shorten
  split
  · rfl
  · rw [List.take_take, Nat.min_self]

/- A text that is cut comes before itself. -/
theorem shorten_lt
    {n : Int64}
    (hLength : n ∈ s.length?)
    (hLong : n.toInt.toNat < v.length) :
    s.shorten v < v := by
  unfold shorten
  rw [Option.mem_def.mp hLength]
  exact Prefix.take_lt hLong

/- What is cut off anyway does not count. -/
theorem shorten_append
    {n : Int64}
    (hLength : n ∈ s.length?)
    (hLong : n.toInt ≤ v.length)
    (x : List UInt8) :
    s.shorten (v ++ x) = s.shorten v := by
  unfold shorten
  rw [Option.mem_def.mp hLength]
  apply List.take_append_of_le_length
  omega

/-
  With room for one byte more than a text has, what comes
  after that text still does when it is cut.
-/
theorem lt_shorten
    (h : v < x)
    (hShort : ∀ n ∈ s.length?, (v.length : Int) < n.toInt) :
    v < s.shorten x := by
  unfold shorten
  split
  · exact h
  · next n hLength =>
      have hLess := hShort n hLength
      apply Prefix.lt_take h
      omega

------------------------------------------------------------
-- Agreement With The Evaluator And The Derivation
------------------------------------------------------------

/- What the evaluator's function takes from a text. -/
theorem substring_eq_ok
    (s : Slice)
    {source start : Value}
    {length? : Option Value}
    (hText : source.text? = some x)
    (hStart : start.int? = some s.start)
    (hLength : length?.map Value.int? = s.length?.map some) :
    Func.substring s.dialect source start length? =
      .ok (s.value x) := by
  have hSource : Func.substr.textOperand source = .ok x := by
    rw [Func.textOperand, hText]
  have hFirst : Func.substr.intOperand start = .ok s.start := by
    rw [Func.intOperand, hStart]
  have hOutside :
      (s.position x.length < 1 ∨
          (x.length : Int) < s.position x.length) ↔
        ¬ Inside x.length (s.position x.length) := by
    unfold Inside
    omega
  unfold Func.substring value
  simp only [hSource, hFirst, Steps.ok_bind]
  change
    (if s.position x.length < 1 ∨
        (x.length : Int) < s.position x.length then _ else _) =
      _
  by_cases hInside : Inside x.length (s.position x.length)
  · rw [if_neg (by rw [hOutside]; exact not_not_intro hInside),
      if_pos hInside]
    cases length? with
    | none =>
        have hNone : s.length? = none := by
          simpa using hLength.symm
        simp [shorten, hNone, position]
    | some v =>
        have hSome :
            ∃ n, s.length? = some n ∧ v.int? = some n := by
          simpa [eq_comm] using hLength
        rcases hSome with ⟨n, hCount, hValue⟩
        simp [shorten, hCount, position, Func.intOperand,
          hValue]
  · rw [if_pos (hOutside.mpr hInside), if_neg hInside]

/- The slice of whatever text an expression gives. -/
theorem eval_call
    (s : Slice)
    {scope : Scope}
    {source : Expr}
    {arguments : List Expr}
    {w : Value}
    (hDialect : scope.dialect = s.dialect)
    (hSource : source.eval scope = .ok w)
    (hText : w.text? = some x)
    (hGiven : s.IsGivenBy scope arguments) :
    (Expr.call .substr (source :: arguments)).eval scope =
      .ok (.text (s.value x) scope.collation) := by
  have hNull : w.isNull = false :=
    Value.isNull_of_text? hText
  cases hGiven with
  | rest hLength hStart =>
      rcases hStart with ⟨start, hEval, hInt⟩
      have hValue :
          Func.substring s.dialect w start none =
            .ok (s.value x) :=
        s.substring_eq_ok hText hInt (by rw [hLength]; rfl)
      simp [Expr.eval, Expr.evalArgs, hSource, hEval,
        Func.apply, Func.checkArity, Func.arity?,
        Func.applyChecked, hNull, Value.isNull_of_int? hInt,
        hDialect, hValue]
  | part hLength hStart hCount =>
      rcases hStart with ⟨start, hEval, hInt⟩
      rcases hCount with ⟨count, hEvalCount, hIntCount⟩
      have hValue :
          Func.substring s.dialect w start (some count) =
            .ok (s.value x) :=
        s.substring_eq_ok hText hInt
          (by rw [hLength, Option.map_some, hIntCount]; rfl)
      simp [Expr.eval, Expr.evalArgs, hSource, hEval,
        hEvalCount, Func.apply, Func.checkArity, Func.arity?,
        Func.applyChecked, hNull, Value.isNull_of_int? hInt,
        Value.isNull_of_int? hIntCount, hDialect, hValue]

/-
  The function gives a value for every text: its slice,
  under the session's collation.
-/
theorem eval_expr
    (s : Slice)
    {scope : Scope}
    (hDialect : scope.dialect = s.dialect)
    (x : List UInt8) :
    (s.expr x).eval scope =
      .ok (.text (s.value x) scope.collation) := by
  have hGiven :
      s.IsGivenBy scope
        (.int s.start :: (s.length?.map Expr.int).toList) := by
    cases hLength : s.length? with
    | none => exact .rest hLength ⟨_, rfl, rfl⟩
    | some n => exact .part hLength ⟨_, rfl, rfl⟩ ⟨_, rfl, rfl⟩
  exact s.eval_call hDialect rfl rfl hGiven

/- The evaluator gives the slice as its only value. -/
theorem builtin_expr
    (s : Slice)
    {scope : Scope}
    (hDialect : scope.dialect = s.dialect)
    (x : List UInt8) :
    Evaluator.builtin scope (s.expr x) =
      .ok [.text (s.value x) scope.collation] := by
  rw [Evaluator.builtin, s.eval_expr hDialect]
  rfl

/- Bytes up to an end, without those before a position. -/
theorem drop_take_position
    {p m : Int}
    (hPosition : Inside v.length p)
    (hLength : 1 ≤ m) :
    (v.take (Nat.min (p - 1 + m).toNat v.length)).drop
        (p - 1).toNat =
      (v.drop (p - 1).toNat).take m.toNat := by
  rcases hPosition with ⟨hFirst, hLast⟩
  rw [List.drop_take, List.take_eq_take_iff,
    List.length_drop]
  show min (min (p - 1 + m).toNat v.length - _) _ = _
  omega

/- The substring that a generator selects is the bound. -/
theorem substring_generator
    (s : Slice)
    (column : String)
    (v : List UInt8) :
    Derivation.substring s.dialect (s.generator column) v =
      s.bound v := by
  have hStart : (s.generator column).int? 1 = some s.start :=
    rfl
  have hLength : (s.generator column).int? 2 = s.length? := by
    cases hLength : s.length? with
    | none =>
        simp [generator, Generator.substring, hLength,
          Generator.int?]
    | some n =>
        simp [generator, Generator.substring, hLength,
          Generator.int?]
  have hPositions :
      s.dialect.position v.length s.start.toInt =
        s.position v.length :=
    rfl
  unfold Derivation.substring Derivation.slice? bound
  simp only [hStart, hLength, hPositions]
  by_cases hPosition : Inside v.length (s.position v.length)
  · cases hLength : s.length? with
    | none =>
        have hFits : s.Fits v.length :=
          ⟨hPosition, by simp [hLength]⟩
        have hRest :
            Inside v.length
              (v.length - s.position v.length + 1) := by
          unfold Inside at hPosition ⊢
          omega
        have hWhole :
            (v.drop (s.position v.length - 1).toNat).length ≤
              (v.length - s.position v.length + 1).toNat := by
          rw [List.length_drop]
          unfold Inside at hPosition
          omega
        simp only [hFits, hPosition, hRest, and_self, if_true,
          drop_take_position hPosition hRest.1,
          List.take_of_length_le hWhole, value, shorten,
          hLength]
    | some n =>
        by_cases hInside : Inside v.length n.toInt
        · have hFits : s.Fits v.length :=
            ⟨hPosition, by simpa [hLength] using hInside⟩
          simp only [hFits, hPosition, hInside, and_self,
            if_true, drop_take_position hPosition hInside.1,
            value, shorten, hLength]
        · have hNot : ¬ s.Fits v.length :=
            fun hFits => hInside (hFits.2 n hLength)
          simp only [hNot, hInside, and_false, if_false]
  · have hNot : ¬ s.Fits v.length :=
      fun hFits => hPosition hFits.1
    simp only [hNot, hPosition, false_and, if_false]

end Slice

/- A key derives the bound on it from a text. -/
theorem PartKey.derive_eq_bound
    {source : PartKey}
    {s : Slice}
    {column : String}
    (hGenerator :
      source.generator? = some (s.generator column))
    (x : List UInt8)
    (c : Collation) :
    source.derive s.dialect (.text x c) =
      .ok (.text (s.bound x) c) := by
  have hFunc : (s.generator column).func = .substr := rfl
  unfold derive
  simp only [hGenerator, hFunc, if_true,
    s.substring_generator column x]

end PartitionPruning
