import PartitionPruning.Proofs.Guarded
import PartitionPruning.Proofs.Schema.Carrying

/-
  Substrings, position by position.

  A substring has the bytes of a text at the positions from
  its start on, as far as its length and the text go.  It is
  taken without a number that does not fit into 64 bits, and
  from bytes that are there.

  Key definitions include:
    * `bytesAt`
    * `Slice.clamped`
    * `Guarded.substring`
    * `Guarded.substr`

  Main declarations:
    * `Slice.value_eq_clamped`
    * `Slice.value_append_value`
    * `Guarded.substr_eq`
    * `Expr.eval_substr`
-/

namespace PartitionPruning

open PartitionPruning.Derivation (Inside)

variable {x : List UInt8}

------------------------------------------------------------
-- Bytes At Positions
------------------------------------------------------------

/- The bytes at some of the positions, counted from one. -/
def bytesAt
    (x : List UInt8)
    (keep : Nat → Prop)
    [DecidablePred keep] : List UInt8 :=
  ((x.zipIdx 1).filter fun byte => keep byte.2).map Prod.fst

/-
  The bytes from one position on, and before another, where
  the first byte is at position `k`.
-/
theorem map_filter_zipIdx
    (x : List UInt8)
    (first stop k : Nat) :
    ((x.zipIdx k).filter fun byte =>
        first ≤ byte.2 ∧ byte.2 < stop).map Prod.fst =
      (x.drop (first - k)).take (stop - max first k) := by
  induction x generalizing k with
  | nil => simp
  | cons b bs ih =>
      rw [List.zipIdx_cons, List.filter_cons]
      by_cases hKeep : first ≤ k ∧ k < stop
      · have hDrop : first - k = 0 := by omega
        have hDropNext : first - (k + 1) = 0 := by omega
        have hTake :
            stop - max first k =
              stop - max first (k + 1) + 1 := by
          omega
        rw [if_pos (decide_eq_true hKeep), List.map_cons, ih,
          hDrop, hDropNext, hTake]
        rfl
      · rw [if_neg (by simpa using hKeep), ih]
        by_cases hFirst : first ≤ k
        · have hTake : stop - max first k = 0 := by omega
          have hTakeNext : stop - max first (k + 1) = 0 := by
            omega
          rw [hTake, hTakeNext, List.take_zero, List.take_zero]
        · have hDrop : first - k = first - (k + 1) + 1 := by
            omega
          have hMax : max first k = max first (k + 1) := by
            omega
          rw [hDrop, hMax, List.drop_succ_cons]

/- Where they lie between two positions, the bytes are cut. -/
theorem bytesAt_eq
    {keep : Nat → Prop}
    [DecidablePred keep]
    {first stop : Nat}
    (hFirst : 1 ≤ first)
    (h :
      ∀ p,
        p ≤ x.length → (keep p ↔ first ≤ p ∧ p < stop)) :
    bytesAt x keep =
      (x.drop (first - 1)).take (stop - first) := by
  have hKeep :
      (x.zipIdx 1).filter (fun byte => keep byte.2) =
        (x.zipIdx 1).filter fun byte =>
          first ≤ byte.2 ∧ byte.2 < stop := by
    apply List.filter_congr
    intro byte hByte
    have hLast := List.snd_lt_add_of_mem_zipIdx hByte
    have hInside : byte.2 ≤ x.length := by omega
    rw [decide_eq_decide]
    exact h byte.2 hInside
  unfold bytesAt
  rw [hKeep, map_filter_zipIdx]
  congr 2
  omega

------------------------------------------------------------
-- Slices
------------------------------------------------------------

namespace Slice

variable {s : Slice}

/-
  The slice of so many bytes has the byte at a position: it
  is not before the start, not after the last byte, and not
  as far from the start as the slice is long.
-/
def Covers
    (s : Slice)
    (size p : Nat) : Prop :=
  s.position size ≤ p ∧ p ≤ size ∧
    ∀ n ∈ s.length?, (p : Int) < s.position size + n.toInt

instance
    (s : Slice)
    (size p : Nat) :
    Decidable (s.Covers size p) :=
  @instDecidableAnd _ _ inferInstance
    (@instDecidableAnd _ _ inferInstance
      (Option.decidableForallMem s.length?))

/-
  The bytes that the slice covers, and none where it does
  not start at a byte of the text.
-/
def clamped
    (s : Slice)
    (x : List UInt8) : List UInt8 :=
  if Inside x.length (s.position x.length) then
    bytesAt x (s.Covers x.length)
  else []

/- The slice has the bytes that it covers. -/
theorem value_eq_clamped
    (s : Slice)
    (x : List UInt8) :
    s.value x = s.clamped x := by
  unfold value clamped
  by_cases hInside : Inside x.length (s.position x.length)
  · rw [if_pos hInside, if_pos hInside]
    rcases hInside with ⟨hFirst, hLast⟩
    have hStart : 1 ≤ (s.position x.length).toNat := by omega
    have hFront :
        (s.position x.length).toNat - 1 =
          (s.position x.length - 1).toNat := by
      omega
    cases hLength : s.length? with
    | none =>
        have hCovers :
            ∀ p, p ≤ x.length →
              (s.Covers x.length p ↔
                (s.position x.length).toNat ≤ p ∧
                  p < x.length + 1) := by
          intro p hp
          simp only [Covers, hLength, Option.mem_def,
            reduceCtorEq, false_implies, implies_true,
            and_true]
          omega
        rw [bytesAt_eq hStart hCovers, hFront]
        simp only [shorten, hLength]
        rw [List.take_of_length_le]
        rw [List.length_drop]
        omega
    | some n =>
        have hCovers :
            ∀ p, p ≤ x.length →
              (s.Covers x.length p ↔
                (s.position x.length).toNat ≤ p ∧
                  p <
                    (s.position x.length + n.toInt).toNat) := by
          intro p hp
          simp only [Covers, hLength, Option.mem_def,
            Option.some.injEq, forall_eq']
          omega
        rw [bytesAt_eq hStart hCovers, hFront]
        simp only [shorten, hLength]
        congr 1
        omega
  · rw [if_neg hInside, if_neg hInside]

/- A text is its first bytes and the others. -/
theorem value_append_value
    (d : Dialect)
    {k : Nat}
    (hSize : x.length < 2 ^ 62)
    (hk : k ≤ x.length) :
    (⟨d, 1, some (Int64.ofNat k)⟩ : Slice).value x ++
        (⟨d, Int64.ofNat (k + 1), none⟩ : Slice).value x =
      x := by
  have hCount : (Int64.ofNat k).toInt = k :=
    Int64.toInt_ofNat_of_lt (by omega)
  have hNext : (Int64.ofNat (k + 1)).toInt = (k + 1 : Nat) :=
    Int64.toInt_ofNat_of_lt (by omega)
  have hFront :
      (⟨d, 1, some (Int64.ofNat k)⟩ : Slice).value x =
        x.take k := by
    rw [IsLeading.value (Or.inl rfl)]
    simp only [shorten, hCount, Int.toNat_natCast]
  have hBack :
      (⟨d, Int64.ofNat (k + 1), none⟩ : Slice).value x =
        x.drop k := by
    have hPlace :
        (⟨d, Int64.ofNat (k + 1), none⟩ : Slice).position
            x.length =
          k + 1 := by
      rw [position_of_start_pos]
      · exact hNext
      · show 0 < (Int64.ofNat (k + 1)).toInt
        omega
    by_cases hLess : k < x.length
    · rw [value_of_position hPlace hLess]
      rfl
    · have hOutside :
          ¬ Inside x.length
            ((⟨d, Int64.ofNat (k + 1), none⟩ :
              Slice).position x.length) := by
        rw [hPlace]
        unfold Inside
        omega
      rw [value_of_not_inside hOutside,
        List.drop_of_length_le (by omega)]
  rw [hFront, hBack, List.take_append_drop]

end Slice

------------------------------------------------------------
-- Guarded Substrings
------------------------------------------------------------

/- The text of a value, if any, is shorter than 2^62 bytes. -/
def Value.IsShort
    (v : Value) : Prop :=
  ∀ x ∈ v.text?, x.length < 2 ^ 62

namespace Guarded

/- So many bytes from a position on, if there are so many. -/
def window
    (x : List UInt8)
    (p count : Int64) : Guarded ExprError (List UInt8) :=
  if count < 1 then .ok [] else part x p count

/- How many bytes a length leaves of those that are there. -/
def limit
    (length? : Option Value)
    (rest : Int64) : Guarded ExprError Int64 :=
  match length? with
  | none => .ok rest
  | some v => do
      let n ← ofResult (Func.substr.intOperand v)
      .ok (min n rest)

/-
  The bytes of a text from a position on, by a start and at
  most as many as are there.
-/
def substring
    (d : Dialect)
    (source start : Value)
    (length? : Option Value) :
    Guarded ExprError (List UInt8) := do
  let x ← ofResult (Func.substr.textOperand source)
  let first ← ofResult (Func.substr.intOperand start)
  let p ← position d (size x) first
  if p < 1 ∨ size x < p then .ok []
  else do
    let rest ← available (size x) p
    let count ← limit length? rest
    window x p count

/- A substring of as many arguments as it takes. -/
def substr
    (scope : Scope)
    (args : List Value) : Guarded ExprError Value := do
  ofResult (Func.substr.checkArity args.length)
  if args.any Value.isNull then .ok .null
  else
    match args with
    | source :: start :: length => do
        let x ←
          substring scope.dialect source start length.head?
        .ok (.text x scope.collation)
    | _ => .error .outside

theorem window_eq_ok
    {p count : Int64}
    (hSize : x.length < 2 ^ 62)
    (hInside : Inside x.length p.toInt)
    (hRest : count.toInt ≤ x.length - p.toInt + 1) :
    window x p count =
      .ok ((x.drop (p.toInt - 1).toNat).take
        count.toInt.toNat) := by
  rcases hInside with ⟨hFirst, hLast⟩
  unfold window
  simp only [Int64.lt_iff_toInt_lt, toInt_one]
  split
  · next hNone =>
      have hCount : count.toInt.toNat = 0 := by omega
      rw [hCount, List.take_zero]
  · next hSome =>
      exact
        part_eq_ok hSize hFirst (by omega) (by omega)

/- The bytes that are left of a length, as they are taken. -/
theorem limit_bind_window
    {p rest : Int64}
    (hSize : x.length < 2 ^ 62)
    (hInside : Inside x.length p.toInt)
    (hRest : rest.toInt = x.length - p.toInt + 1)
    (length? : Option Value) :
    (do
      let count ← limit length? rest
      window x p count) =
    ofResult
      (match length? with
      | none => .ok (x.drop (p.toInt - 1).toNat)
      | some v => do
          let n ← Func.substr.intOperand v
          .ok ((x.drop (p.toInt - 1).toNat).take
            n.toInt.toNat)) := by
  have hTail :
      (x.drop (p.toInt - 1).toNat).length =
        rest.toInt.toNat := by
    rw [List.length_drop]
    unfold Inside at hInside
    omega
  cases length? with
  | none =>
      simp only [limit, Steps.ok_bind, ofResult_ok]
      rw [window_eq_ok hSize hInside (Int.le_of_eq hRest),
        List.take_of_length_le (Nat.le_of_eq hTail)]
  | some v =>
      simp only [limit]
      cases Func.substr.intOperand v with
      | error cause => rfl
      | ok n =>
          have hMin := toInt_min n rest
          simp only [ofResult_ok, Steps.ok_bind]
          rw [window_eq_ok hSize hInside (by omega),
            List.take_eq_take_iff.mpr]
          rw [hTail, hMin]
          omega

/- The guarded substring never stops where the other goes on. -/
theorem substring_eq
    (d : Dialect)
    {source : Value}
    (hShort : source.IsShort)
    (start : Value)
    (length? : Option Value) :
    substring d source start length? =
      ofResult (Func.substring d source start length?) := by
  unfold substring Func.substring
  cases hText : source.text? with
  | none => simp [Func.textOperand, hText]
  | some x =>
      have hSize : x.length < 2 ^ 62 := hShort x hText
      have hSource :
          Func.substr.textOperand source = .ok x := by
        rw [Func.textOperand, hText]
      cases hStart : Func.substr.intOperand start with
      | error cause => simp [hSource]
      | ok first =>
          rcases position_eq_ok ExprError d (toInt_size hSize)
              hSize first with
            ⟨p, hPosition, hValue⟩
          simp only [hSource, ofResult_ok, Steps.ok_bind,
            hPosition, Int64.lt_iff_toInt_lt, toInt_one,
            toInt_size hSize, ← hValue]
          split
          · rfl
          · next hNot =>
              have hInside : Inside x.length p.toInt := by
                unfold Inside
                omega
              rcases available_eq_ok ExprError
                  (toInt_size hSize) hSize hInside.1
                  hInside.2 with
                ⟨rest, hAvailable, hRest⟩
              rw [hAvailable, Steps.ok_bind]
              exact
                limit_bind_window hSize hInside hRest length?

/- Nor does the guarded function. -/
theorem substr_eq
    (scope : Scope)
    {args : List Value}
    (hShort : ∀ v ∈ args.head?, v.IsShort) :
    substr scope args =
      ofResult (Func.substr.apply scope args) := by
  unfold substr Func.apply
  cases hArity : Func.substr.checkArity args.length with
  | error cause => rfl
  | ok arity =>
      simp only [ofResult_ok, Steps.ok_bind]
      rcases args with _ | ⟨source, _ | ⟨start, length⟩⟩
      · simp [Func.checkArity, Func.arity?] at hArity
      · simp [Func.checkArity, Func.arity?] at hArity
      · have hSource : source.IsShort := hShort source rfl
        simp only [Func.applyChecked, substring_eq _ hSource]
        split
        · rfl
        · cases Func.substring scope.dialect source start
              length.head? <;> rfl

end Guarded

------------------------------------------------------------
-- Substrings As Expressions
------------------------------------------------------------

namespace Expr

variable {scope : Scope}

/- The bytes that a slice covers, from whatever arguments. -/
theorem eval_substr_eq_clamped
    {source : Expr}
    {v : Value}
    {s : Slice}
    {arguments : List Expr}
    (hSource : source.eval scope = .ok v)
    (hText : v.text? = some x)
    (hDialect : s.dialect = scope.dialect)
    (hGiven : s.IsGivenBy scope arguments) :
    (call .substr (source :: arguments)).eval scope =
      .ok (.text (s.clamped x) scope.collation) := by
  rw [← s.value_eq_clamped]
  exact s.eval_call hDialect.symm hSource hText hGiven

/- Two texts, one after the other. -/
theorem eval_concat_text
    {left right : Expr}
    {a b : List UInt8}
    {c d : Collation}
    (hLeft : left.eval scope = .ok (.text a c))
    (hRight : right.eval scope = .ok (.text b d)) :
    (call .concat [left, right]).eval scope =
      .ok (.text (a ++ b) scope.collation) := by
  simp [eval, evalArgs, hLeft, hRight, Func.apply,
    Func.checkArity, Func.arity?, Func.applyChecked,
    Func.concatenation, Func.textOperand, Value.isNull,
    Value.text?]

/- A text put together from its first bytes and the others. -/
theorem eval_concat_substr
    {source first count next : Expr}
    {v : Value}
    {k : Nat}
    (hSource : source.eval scope = .ok v)
    (hText : v.text? = some x)
    (hSize : x.length < 2 ^ 62)
    (hk : k ≤ x.length)
    (hFirst : first.GivesInt scope 1)
    (hCount : count.GivesInt scope (Int64.ofNat k))
    (hNext : next.GivesInt scope (Int64.ofNat (k + 1))) :
    (call .concat
      [call .substr [source, first, count],
        call .substr [source, next]]).eval scope =
      .ok (.text x scope.collation) := by
  have hFront :=
    Slice.eval_call ⟨scope.dialect, 1, some (Int64.ofNat k)⟩
      rfl hSource hText (.part rfl hFirst hCount)
  have hBack :=
    Slice.eval_call
      ⟨scope.dialect, Int64.ofNat (k + 1), none⟩
      rfl hSource hText (.rest rfl hNext)
  rw [eval_concat_text hFront hBack,
    Slice.value_append_value scope.dialect hSize hk]

/- No substring of nothing, from nowhere, or of no length. -/
theorem eval_substr_null
    {arguments : List Expr}
    {values : List Value}
    (hValues : evalArgs scope arguments = .ok values)
    (hArity : values.length = 2 ∨ values.length = 3)
    (hNull : .null ∈ values) :
    (call .substr arguments).eval scope = .ok .null := by
  have hAny : values.any Value.isNull = true :=
    List.any_eq_true.mpr ⟨.null, hNull, rfl⟩
  have hCheck :
      Func.substr.checkArity values.length = .ok () := by
    rcases hArity with hTwo | hThree
    · rw [hTwo]
      rfl
    · rw [hThree]
      rfl
  rw [eval, hValues, Steps.ok_bind, Func.apply, hCheck,
    Steps.ok_bind]
  rcases values with _ | ⟨source, _ | ⟨start, length⟩⟩
  · cases hNull
  · simp at hArity
  · rw [Func.applyChecked, if_pos hAny]

/-
  A substring has the bytes of its text at the positions
  that its start and length leave.  One of a `null` is a
  `null`, and the first bytes of a text with the others are
  the text.  No number on the way is beyond 64 bits, and no
  byte beyond the text.
-/
theorem eval_substr
    (scope : Scope) :
    (∀ source v x,
        source.eval scope = .ok v → v.text? = some x →
        x.length < 2 ^ 62 →
          (∀ (s : Slice) (arguments : List Expr),
            s.dialect = scope.dialect →
            s.IsGivenBy scope arguments →
              (call .substr (source :: arguments)).eval
                  scope =
                .ok (.text (s.clamped x) scope.collation)) ∧
          (∀ k first count next,
            k ≤ x.length →
            first.GivesInt scope 1 →
            count.GivesInt scope (Int64.ofNat k) →
            next.GivesInt scope (Int64.ofNat (k + 1)) →
              (call .concat
                [call .substr [source, first, count],
                  call .substr [source, next]]).eval scope =
                .ok (.text x scope.collation))) ∧
      (∀ arguments values,
        evalArgs scope arguments = .ok values →
        values.length = 2 ∨ values.length = 3 →
        .null ∈ values →
          (call .substr arguments).eval scope = .ok .null) ∧
      (∀ values : List Value,
        (∀ v ∈ values.head?, v.IsShort) →
          Guarded.substr scope values =
            Guarded.ofResult
              (Func.substr.apply scope values)) := by
  refine ⟨?_, ?_, ?_⟩
  · intro source v x hSource hText hSize
    constructor
    · intro s arguments hDialect hGiven
      exact
        eval_substr_eq_clamped hSource hText hDialect hGiven
    · intro k first count next hk hFirst hCount hNext
      exact
        eval_concat_substr hSource hText hSize hk hFirst
          hCount hNext
  · intro arguments values hValues hArity hNull
    exact eval_substr_null hValues hArity hNull
  · intro values hShort
    exact Guarded.substr_eq scope hShort

/- What a row without a note has to say. -/
def noteScope : Scope :=
  ⟨.oracle, (default : Fields).insert "note" .null, ⟨46⟩⟩

/-
  Of the number -1205, two bytes from the third to last on,
  and the number put together again.  The least start stands
  far before the text.
-/
theorem eval_substr_negativeNumber :
    (call .substr
        [int (-1205), text (Utf8.bytes " -3 "), int 2]).eval
        noteScope =
      .ok (.text (Utf8.bytes "20") ⟨46⟩) ∧
    (call .concat
        [call .substr [int (-1205), int 1, int 2],
          call .substr [int (-1205), int 3]]).eval noteScope =
      .ok (.text (Utf8.bytes "-1205") ⟨46⟩) ∧
    (call .substr [column "note", int 1]).eval noteScope =
      .ok .null ∧
    Guarded.substr noteScope
        [.int (-1205), .int Int64.minValue] =
      .ok (.text [] ⟨46⟩) := by
  rcases eval_substr noteScope with
    ⟨hTexts, hNulls, hGuarded⟩
  have hText :
      (Value.int (-1205)).text? = some (Utf8.bytes "-1205") := by
    decide +kernel
  have hSize : (Utf8.bytes "-1205").length < 2 ^ 62 := by
    decide +kernel
  rcases hTexts (int (-1205)) (.int (-1205)) _ rfl hText
      hSize with
    ⟨hSlices, hJoined⟩
  refine ⟨?_, ?_, ?_, ?_⟩
  · have hBytes :
        (⟨.oracle, -3, some 2⟩ : Slice).clamped
            (Utf8.bytes "-1205") =
          Utf8.bytes "20" := by
      decide +kernel
    rw [hSlices ⟨.oracle, -3, some 2⟩ _ rfl, hBytes]
    · rfl
    · refine .part rfl ⟨_, rfl, ?_⟩ ⟨_, rfl, rfl⟩
      decide +kernel
  · exact
      hJoined 2 _ _ _ (by decide +kernel) ⟨_, rfl, rfl⟩
        ⟨_, rfl, rfl⟩ ⟨_, rfl, rfl⟩
  · exact
      hNulls _ [.null, .int 1] rfl (.inl rfl) (.head _)
  · rw [hGuarded]
    · rfl
    · intro v hFirst x hSome
      cases hFirst
      rw [Option.mem_def, hText] at hSome
      cases hSome
      exact hSize

end Expr

end PartitionPruning
