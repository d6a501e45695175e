import PartitionPruning.Proofs.Expr.Substring

/-
  Keys derived as substrings.

  A key that another feeds through a substring has what the
  evaluator makes of the same substring, where the start and
  the length lie in the text, and the text itself where they
  do not.  The two substrings are taken in different ways,
  neither of which comes to a number beyond 64 bits or to a
  byte beyond the text.

  Key definitions include:
    * `Guarded.bounds`
    * `Guarded.derive`

  Main declarations:
    * `Guarded.bounds_eq_ok`
    * `Guarded.derive_eq`
    * `PartKey.derive_generator`
-/

namespace PartitionPruning

open PartitionPruning.Derivation (Inside)

------------------------------------------------------------
-- Guarded Derivation
------------------------------------------------------------

namespace Guarded

variable {ε : Type}

/- A length, or else the bytes from a position on. -/
def lengthFrom
    (size p : Int64)
    (length? : Option Int64) : Guarded ε Int64 :=
  match length? with
  | some n => .ok n
  | none => available size p

/-
  The bytes before a slice and those before its end, if it
  has a length that lies in the text.
-/
def ends
    (size p length : Int64) :
    Guarded ε (Option (UInt64 × UInt64)) :=
  if 1 ≤ length ∧ length ≤ size then do
    let before ← sub p 1
    let stop ← add before length
    .ok (some (before.toUInt64, (min stop size).toUInt64))
  else .ok none

/-
  The same for a start and perhaps a length.  The position
  is counted by checked sums: one that does not fit gives no
  slice, and does not stop the computation.
-/
def bounds
    (d : Dialect)
    (size : Nat)
    (start? length? : Option Int64) :
    Guarded ε (Option (UInt64 × UInt64)) :=
  match Integer.narrow? size, start? with
  | some size, some start =>
      match (position d size start : Guarded ε Int64) with
      | .error _ => .ok none
      | .ok p =>
          if 1 ≤ p ∧ p ≤ size then do
            let length ← lengthFrom size p length?
            ends size p length
          else .ok none
  | _, _ => .ok none

/- The value of the key that `source` feeds. -/
def derive
    (source : PartKey)
    (d : Dialect)
    (v : Value) : Guarded Failure Value :=
  match source.generator? with
  | none => .error (.failed (.noGenerator source.name))
  | some g =>
      if g.func = .substr then
        match v with
        | .text bytes c => do
            let slice? ←
              bounds d bytes.length (g.int? 1) (g.int? 2)
            match slice? with
            | some (before, stop) => do
                let out ← drain (bytes.take stop.toNat) before
                .ok (.text out c)
            | none => .ok v
        | v => .ok v
      else .error (.failed (.unsupportedGenerator g.func))

variable {size p length : Int64}
variable {n : Nat}

/- A slice without a length goes on to the end of its text. -/
theorem lengthFrom_eq_ok
    (ε : Type)
    (hSize : size.toInt = n)
    (hSmall : n < 2 ^ 62)
    (hPosition : Inside n p.toInt)
    (length? : Option Int64) :
    ∃ length : Int64,
      (lengthFrom size p length? : Guarded ε _) =
          .ok length ∧
        length.toInt =
          (length?.map Int64.toInt).getD
            (n - p.toInt + 1) := by
  cases length? with
  | none =>
      exact
        available_eq_ok ε hSize hSmall hPosition.1
          hPosition.2
  | some m => exact ⟨m, rfl, rfl⟩

/-
  A slice that is too long for its text ends where the
  text ends.
-/
theorem ends_of_inside
    (ε : Type)
    (hSize : size.toInt = n)
    (hSmall : n < 2 ^ 62)
    (hPosition : Inside n p.toInt)
    (hLength : Inside n length.toInt) :
    ∃ before stop : UInt64,
      (ends size p length : Guarded ε _) =
          .ok (some (before, stop)) ∧
        before.toNat = (p.toInt - 1).toNat ∧
        stop.toNat =
          Nat.min (p.toInt - 1 + length.toInt).toNat n := by
  rcases hPosition with ⟨hFirst, hLast⟩
  rcases hLength with ⟨hSome, hMost⟩
  rcases sub_one_eq_ok ε hFirst with ⟨before, hSub, hBefore⟩
  have hMore :
      Integer.InRange (before.toInt + length.toInt) := by
    rw [Integer.inRange_iff]
    omega
  rcases add_eq_ok ε hMore with ⟨stop, hAdd, hStop⟩
  have hMin := toInt_min stop size
  refine
    ⟨before.toUInt64, (min stop size).toUInt64, ?_, ?_, ?_⟩
  · have hInside : 1 ≤ length ∧ length ≤ size := by
      rw [Int64.le_iff_toInt_le, Int64.le_iff_toInt_le,
        toInt_one]
      omega
    rw [ends, if_pos hInside, hSub, Steps.ok_bind, hAdd,
      Steps.ok_bind]
  · rw [toNat_toUInt64 (by omega), hBefore]
  · rw [toNat_toUInt64 (by omega)]
    show _ = min _ n
    omega

/- There are no ends for a length that is not inside. -/
theorem ends_of_not_inside
    (ε : Type)
    (hSize : size.toInt = n)
    (hLength : ¬ Inside n length.toInt) :
    (ends size p length : Guarded ε _) = .ok none := by
  apply if_neg
  rw [Int64.le_iff_toInt_le, Int64.le_iff_toInt_le, toInt_one,
    hSize]
  exact hLength

/- The same bytes are selected as without a guard. -/
theorem bounds_eq_ok
    (ε : Type)
    (d : Dialect)
    (hSmall : n < 2 ^ 62)
    (start? length? : Option Int64) :
    ∃ slice? : Option (UInt64 × UInt64),
      (bounds d n start? length? : Guarded ε _) =
          .ok slice? ∧
        slice?.map (Prod.map UInt64.toNat UInt64.toNat) =
          Derivation.slice? d n start? length? := by
  have hRange : Integer.InRange n := by
    rw [Integer.inRange_iff]
    omega
  rcases Integer.narrow?_of_inRange hRange with
    ⟨size, hSize, hNarrow⟩
  cases start? with
  | none => exact ⟨none, by simp [bounds, hNarrow], rfl⟩
  | some start =>
      rcases position_eq_ok ε d hSize hSmall start with
        ⟨p, hCounted, hPosition⟩
      have hNear :
          1 ≤ p ∧ p ≤ size ↔ Inside n p.toInt := by
        rw [Int64.le_iff_toInt_le, Int64.le_iff_toInt_le,
          toInt_one, hSize]
        rfl
      unfold bounds
      simp only [hNarrow, hCounted, hNear]
      by_cases hInside : Inside n p.toInt
      · rw [if_pos hInside]
        rcases lengthFrom_eq_ok ε hSize hSmall hInside length?
          with ⟨length, hGiven, hValue⟩
        have hSlice :
            Derivation.slice? d n (some start) length? =
              if Inside n p.toInt ∧ Inside n length.toInt then
                some ((p.toInt - 1).toNat,
                  Nat.min (p.toInt - 1 + length.toInt).toNat n)
              else none := by
          rw [hValue, hPosition]
          cases length? <;> rfl
        rw [hGiven, Steps.ok_bind, hSlice]
        by_cases hFits : Inside n length.toInt
        · rcases ends_of_inside ε hSize hSmall hInside hFits
            with ⟨before, stop, hEnds, hBefore, hStop⟩
          refine ⟨_, hEnds, ?_⟩
          rw [if_pos ⟨hInside, hFits⟩, ← hBefore, ← hStop]
          rfl
        · refine ⟨none, ends_of_not_inside ε hSize hFits, ?_⟩
          rw [if_neg (fun h => hFits h.2)]
          rfl
      · refine ⟨none, if_neg hInside, ?_⟩
        rw [hPosition] at hInside
        exact (if_neg fun h => hInside h.1).symm

/- The bytes before a slice are bytes before its end. -/
theorem before_le_stop
    {d : Dialect}
    {start? length? : Option Int64}
    {before stop : Nat}
    (h :
      Derivation.slice? d n start? length? =
        some (before, stop)) :
    before ≤ stop ∧ stop ≤ n := by
  unfold Derivation.slice? at h
  cases start? with
  | none => cases h
  | some start =>
      rcases Option.ite_none_right_eq_some.mp h with
        ⟨⟨⟨hFirst, hLast⟩, hSome, hMost⟩, hPair⟩
      cases hPair
      refine ⟨?_, Nat.min_le_right _ _⟩
      apply Nat.le_min.mpr
      omega

/- The guarded derivation never stops where the other goes on. -/
theorem derive_eq
    (source : PartKey)
    (d : Dialect)
    {v : Value}
    (hShort : v.IsShort) :
    derive source d v = ofResult (source.derive d v) := by
  unfold derive PartKey.derive
  cases source.generator? with
  | none => rfl
  | some g =>
      by_cases hFunc : g.func = .substr
      · simp only [if_pos hFunc]
        cases v with
        | text bytes c =>
            have hSmall : bytes.length < 2 ^ 62 :=
              hShort bytes rfl
            rcases bounds_eq_ok Failure d hSmall (g.int? 1)
                (g.int? 2) with
              ⟨slice?, hBounds, hSlice⟩
            simp only [hBounds, Steps.ok_bind,
              Derivation.substring, ← hSlice]
            cases slice? with
            | none => rfl
            | some slice =>
                rcases slice with ⟨before, stop⟩
                rcases before_le_stop hSlice.symm with
                  ⟨hBefore, hStop⟩
                have hThere :
                    before.toNat ≤
                      (bytes.take stop.toNat).length := by
                  rw [List.length_take]
                  exact
                    Nat.le_min.mpr
                      ⟨hBefore, Nat.le_trans hBefore hStop⟩
                simp only [drain, if_pos hThere,
                  Steps.ok_bind, Option.map_some,
                  Prod.map_apply, ofResult_ok]
        | _ => rfl
      · simp only [if_neg hFunc, ofResult_error]

end Guarded

------------------------------------------------------------
-- Agreement
------------------------------------------------------------

/- The arguments of the slice, by their values. -/
theorem Slice.eval_expr_eq_apply
    (s : Slice)
    (scope : Scope)
    (x : List UInt8) :
    (s.expr x).eval scope =
      Func.substr.apply scope
        (.text x scope.collation :: .int s.start ::
          (s.length?.map Value.int).toList) := by
  unfold expr
  cases s.length? <;> rfl

namespace PartKey

variable {source : PartKey}
variable {s : Slice}
variable {column : String}
variable {x : List UInt8}

/-
  Where the slice fits, the derived text is the one that the
  evaluator gives, and elsewhere the text that was there.
  Neither meets a number beyond 64 bits or a byte beyond the
  text.
-/
theorem derive_generator
    (hGenerator :
      source.generator? = some (s.generator column))
    (hSize : x.length < 2 ^ 62)
    (c : Collation) :
    (s.Fits x.length →
      ∃ out,
        source.derive s.dialect (.text x c) =
            .ok (.text out c) ∧
          ∀ scope : Scope,
            scope.dialect = s.dialect →
              Evaluator.builtin scope (s.expr x) =
                .ok [.text out scope.collation]) ∧
    (¬ s.Fits x.length →
      source.derive s.dialect (.text x c) =
        .ok (.text x c)) ∧
    Guarded.derive source s.dialect (.text x c) =
      Guarded.ofResult
        (source.derive s.dialect (.text x c)) ∧
    ∀ scope : Scope,
      scope.dialect = s.dialect →
        Guarded.substr scope
            (.text x scope.collation :: .int s.start ::
              (s.length?.map Value.int).toList) =
          .ok (.text (s.value x) scope.collation) := by
  have hShort : ∀ c, (Value.text x c).IsShort := by
    intro c text hText
    cases hText
    exact hSize
  refine ⟨?_, ?_, ?_, ?_⟩
  · intro hFits
    refine ⟨s.value x, ?_, ?_⟩
    · rw [derive_eq_bound hGenerator, Slice.bound,
        if_pos hFits]
    · intro scope hDialect
      exact s.builtin_expr hDialect x
  · intro hNot
    rw [derive_eq_bound hGenerator, Slice.bound, if_neg hNot]
  · exact Guarded.derive_eq source s.dialect (hShort c)
  · intro scope hDialect
    rw [Guarded.substr_eq scope (by simpa using hShort _),
      ← s.eval_expr_eq_apply scope x, s.eval_expr hDialect]
    rfl

/- A name, of which another key has a slice. -/
def nameSource
    (s : Slice) : PartKey :=
  ⟨"name", .one, 0, false, some 1, some 0,
    some (s.generator "name"), [], false⟩

/-
  Five bytes counted back by six are at position zero, which
  Oracle reads as the first.  Counted back by the most, they
  are left as they are.
-/
theorem derive_generator_hello :
    (⟨.oracle, -6, some 2⟩ : Slice).Fits 5 ∧
      (nameSource ⟨.oracle, -6, some 2⟩).derive .oracle
          (.text (Utf8.bytes "hello") ⟨46⟩) =
        .ok (.text (Utf8.bytes "he") ⟨46⟩) ∧
      Guarded.derive (nameSource ⟨.oracle, -6, some 2⟩)
          .oracle (.text (Utf8.bytes "hello") ⟨46⟩) =
        .ok (.text (Utf8.bytes "he") ⟨46⟩) ∧
      ¬ (⟨.oracle, Int64.minValue, none⟩ : Slice).Fits 5 ∧
      (nameSource ⟨.oracle, Int64.minValue, none⟩).derive
          .oracle (.text (Utf8.bytes "hello") ⟨46⟩) =
        .ok (.text (Utf8.bytes "hello") ⟨46⟩) := by
  have hSize : (Utf8.bytes "hello").length < 2 ^ 62 := by
    decide +kernel
  have hBack : (⟨.oracle, -6, some 2⟩ : Slice).Fits 5 := by
    decide +kernel
  have hFar :
      ¬ (⟨.oracle, Int64.minValue, none⟩ : Slice).Fits 5 := by
    decide +kernel
  have hSource :
      ∀ s : Slice,
        (nameSource s).generator? =
          some (s.generator "name") :=
    fun _ => rfl
  rcases derive_generator (hSource ⟨.oracle, -6, some 2⟩)
      hSize ⟨46⟩ with
    ⟨hFits, _, hGuarded, _⟩
  rcases derive_generator
      (hSource ⟨.oracle, Int64.minValue, none⟩) hSize ⟨46⟩ with
    ⟨_, hNot, _⟩
  have hDerive :
      (nameSource ⟨.oracle, -6, some 2⟩).derive .oracle
          (.text (Utf8.bytes "hello") ⟨46⟩) =
        .ok (.text (Utf8.bytes "he") ⟨46⟩) := by
    rcases hFits hBack with ⟨out, hOut, hEval⟩
    have hValue :
        Evaluator.builtin Expr.noteScope
            ((⟨.oracle, -6, some 2⟩ : Slice).expr
              (Utf8.bytes "hello")) =
          .ok [.text (Utf8.bytes "he") ⟨46⟩] :=
      rfl
    have hSame := (hEval Expr.noteScope rfl).symm.trans hValue
    simp only [Except.ok.injEq, List.cons.injEq,
      Value.text.injEq] at hSame
    rw [hOut, hSame.1.1]
  refine ⟨hBack, hDerive, ?_, hFar, hNot hFar⟩
  rw [hGuarded, hDerive, Guarded.ofResult_ok]

end PartKey

end PartitionPruning
