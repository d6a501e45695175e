import PartitionPruning.Expr.Eval
import PartitionPruning.Proofs.Steps

/-
  Trees of integer arithmetic.

  Evaluation stays within 64 bits.  Beside it stands the
  value of a tree over all integers, and what should come of
  it: the value if every node of the tree is within 64 bits,
  and else the error of the first node that is not, where
  the arguments of a call come before the call.

  The two differ in one case.  The remainder of the least
  integer divided by minus one is zero, but is taken for an
  overflow because the quotient is one.

  Key definitions include:
    * `Operation.result?`
    * `Arithmetic`
    * `Arithmetic.value?`
    * `Arithmetic.nodes`
    * `Arithmetic.Outcome`
    * `Arithmetic.MeetsLeastRemainder`

  Main declarations:
    * `Arithmetic.run_arithmetic`
    * `Arithmetic.run_eval`
    * `Arithmetic.eval_eq_iff_outcome`
-/

namespace PartitionPruning

open Integer (InRange narrow?)

------------------------------------------------------------
-- Quotients And Remainders
------------------------------------------------------------

namespace Integer

/- Quotients of 64-bit integers are 64-bit, but for one. -/
theorem inRange_tdiv
    {a b : Int}
    (hRange : InRange a)
    (hZero : b ≠ 0)
    (hLeast : ¬ (a = Int64.minValue.toInt ∧ b = -1)) :
    InRange (a.tdiv b) := by
  rw [Int64.toInt_minValue] at hLeast
  rw [inRange_iff] at hRange ⊢
  by_cases hUnit : b.natAbs = 1
  · rcases Int.natAbs_eq_iff.mp hUnit with rfl | rfl
    · simpa using hRange
    · have hNeg : a.tdiv (-1) = -a := by
        rw [Int.tdiv_neg, Int.tdiv_one]
      have hNotLeast : a ≠ -9223372036854775808 := fun hEq =>
        hLeast ⟨hEq, rfl⟩
      rw [Int.ofNat_one, hNeg]
      omega
  · have hHalf : a.natAbs / b.natAbs ≤ a.natAbs / 2 :=
      Nat.div_le_div_left (by omega) (by decide)
    have hAbs : (a.tdiv b).natAbs = a.natAbs / b.natAbs :=
      Int.natAbs_tdiv a b
    omega

/- A remainder of a 64-bit integer is a 64-bit integer. -/
theorem inRange_tmod
    {a : Int}
    (hRange : InRange a)
    (b : Int) :
    InRange (a.tmod b) := by
  rw [inRange_iff] at hRange ⊢
  have hAbs : (a.tmod b).natAbs ≤ a.natAbs := by
    rw [Int.natAbs_tmod]
    exact Nat.mod_le _ _
  by_cases hSign : 0 ≤ a
  · have hNonneg := Int.tmod_nonneg b hSign
    omega
  · have hNonneg : 0 ≤ (-a).tmod b :=
      Int.tmod_nonneg b (by omega)
    rw [Int.neg_tmod] at hNonneg
    omega

end Integer

------------------------------------------------------------
-- Operations
------------------------------------------------------------

/- The operations of arithmetic. -/
inductive Operation where
  | add
  | sub
  | mul
  | div
  | mod
deriving DecidableEq, Repr

namespace Operation

/- The function that does the operation. -/
def func : Operation → Func
  | add => .add
  | sub => .sub
  | mul => .mul
  | div => .div
  | mod => .mod

/- The operation divides by its right operand. -/
def divides : Operation → Bool
  | div | mod => true
  | add | sub | mul => false

/-
  The result over all integers.  Quotients are cut toward
  zero, and nothing is divided by zero.
-/
def result?
    (o : Operation)
    (a b : Int) : Option Int :=
  match o with
  | add => some (a + b)
  | sub => some (a - b)
  | mul => some (a * b)
  | div => if b = 0 then none else some (a.tdiv b)
  | mod => if b = 0 then none else some (a.tmod b)

end Operation

------------------------------------------------------------
-- Trees
------------------------------------------------------------

/- Integers, and operations on two arguments. -/
inductive Arithmetic where
  | int (v : Int64)
  | call (o : Operation) (left right : Arithmetic)
deriving DecidableEq, Repr

namespace Arithmetic

/- The tree as an expression. -/
def expr : Arithmetic → Expr
  | int v => .int v
  | call o left right => .call o.func [left.expr, right.expr]

/-
  The value over all integers, unless something is divided
  by zero.
-/
def value? : Arithmetic → Option Int
  | int v => some v.toInt
  | call o left right =>
      left.value?.bind fun a =>
        right.value?.bind fun b => o.result? a b

/- The nodes, the arguments of a call before the call. -/
def nodes : Arithmetic → List Arithmetic
  | int v => [int v]
  | call o left right =>
      left.nodes ++ (right.nodes ++ [call o left right])

/- The value exists and is a 64-bit integer. -/
def holds
    (t : Arithmetic) : Bool :=
  t.value?.any fun i => decide (InRange i)

/-
  What is wrong with a node whose arguments are 64-bit: it
  divides by zero, or its value is beyond 64 bits.
-/
inductive Fault : Arithmetic → ExprError → Prop where
  | zeroDivisor
      {o : Operation}
      {left right : Arithmetic}
      (divides : o.divides = true)
      (divisor : right.value? = some 0) :
      Fault (call o left right) .divisionByZero
  | overflow
      {o : Operation}
      {left right : Arithmetic}
      {a b : Int64}
      {i : Int}
      (first : left.value? = some a.toInt)
      (second : right.value? = some b.toInt)
      (value : (call o left right).value? = some i)
      (outside : ¬ InRange i) :
      Fault (call o left right) (.overflow o.func a b)

/-
  What should come of a tree: its value if every node is a
  64-bit integer, and else the error of the first node that
  is none.
-/
inductive Outcome
    (t : Arithmetic) : Except ExprError Value → Prop where
  | value
      {v : Int64}
      (held : ∀ n ∈ t.nodes, n.holds = true)
      (exact : t.value? = some v.toInt) :
      Outcome t (.ok (.int v))
  | fault
      {before after : List Arithmetic}
      {n : Arithmetic}
      {e : ExprError}
      (split : t.nodes = before ++ n :: after)
      (held : ∀ m ∈ before, m.holds = true)
      (fault : n.Fault e) :
      Outcome t (.error e)

/- The remainder of the least integer by minus one. -/
def isLeastRemainder : Arithmetic → Bool
  | call .mod left right =>
      decide (left.value? = some Int64.minValue.toInt) &&
        decide (right.value? = some (-1))
  | _ => false

/-
  Every node before some remainder of the least integer by
  minus one is a 64-bit integer.
-/
def MeetsLeastRemainder
    (t : Arithmetic) : Prop :=
  ∃ before n after, t.nodes = before ++ n :: after ∧
    (∀ m ∈ before, m.holds = true) ∧
    n.isLeastRemainder = true

------------------------------------------------------------
-- Where Evaluation Stops
------------------------------------------------------------

variable {t left right : Arithmetic}
variable {o : Operation}
variable {a b : Int64}
variable {e : ExprError}

/- Evaluation stops at the node. -/
def stops
    (t : Arithmetic) : Bool :=
  !t.holds || t.isLeastRemainder

/- The error that evaluation stops with at a node. -/
inductive StopsWith
    (t : Arithmetic) : ExprError → Prop where
  | fault
      {e : ExprError}
      (fault : t.Fault e) :
      StopsWith t e
  | leastRemainder
      (isLeast : t.isLeastRemainder = true) :
      StopsWith t (.overflow .mod Int64.minValue (-1))

/-
  A run over nodes gives the value of a tree, or stops at
  the first node that it can not pass.
-/
inductive Run
    (nodes : List Arithmetic)
    (t : Arithmetic) : Except ExprError Value → Prop where
  | value
      {v : Int64}
      (passed : nodes.find? stops = none)
      (exact : t.value? = some v.toInt) :
      Run nodes t (.ok (.int v))
  | stopped
      {n : Arithmetic}
      {e : ExprError}
      (first : nodes.find? stops = some n)
      (error : n.StopsWith e) :
      Run nodes t (.error e)

theorem holds_of_value?
    {v : Int64}
    (h : t.value? = some v.toInt) :
    t.holds = true := by
  simp [holds, h, Integer.inRange_toInt]

/- Nothing is divided by zero. -/
theorem value?_eq_none
    (hDivides : o.divides = true)
    (hDivisor : right.value? = some 0) :
    (call o left right).value? = none := by
  cases o with
  | div => simp [value?, hDivisor, Operation.result?]
  | mod => simp [value?, hDivisor, Operation.result?]
  | _ => cases hDivides

/- A node with something wrong has no value of 64 bits. -/
theorem Fault.holds_eq_false
    (h : t.Fault e) :
    t.holds = false := by
  cases h with
  | zeroDivisor divides divisor =>
      simp [holds, value?_eq_none divides divisor]
  | overflow first second value outside =>
      simp [holds, value, outside]

/- There is one thing wrong with a node at most. -/
theorem Fault.unique
    {e' : ExprError}
    (h : t.Fault e)
    (h' : t.Fault e') :
    e = e' := by
  cases h with
  | zeroDivisor divides divisor =>
      cases h' with
      | zeroDivisor => rfl
      | overflow _ _ value =>
          rw [value?_eq_none divides divisor] at value
          cases value
  | overflow first second value =>
      cases h' with
      | zeroDivisor divides divisor =>
          rw [value?_eq_none divides divisor] at value
          cases value
      | overflow first' second' =>
          rw [first, Option.some_inj, Int64.toInt_inj] at first'
          rw [second, Option.some_inj, Int64.toInt_inj]
            at second'
          rw [first', second']

/- The remainder that is taken for an overflow is zero. -/
theorem holds_of_isLeastRemainder
    (h : t.isLeastRemainder = true) :
    t.holds = true := by
  unfold isLeastRemainder at h
  split at h
  · next left right =>
      rw [Bool.and_eq_true, decide_eq_true_iff,
        decide_eq_true_iff] at h
      apply holds_of_value? (v := 0)
      simp only [value?, h.1, h.2, Option.bind_some]
      decide
  · cases h

/- Nothing is wrong with that remainder. -/
theorem Fault.isLeastRemainder_eq_false
    (h : t.Fault e) :
    t.isLeastRemainder = false := by
  rw [← Bool.not_eq_true]
  intro hLeast
  have hHolds := holds_of_isLeastRemainder hLeast
  rw [h.holds_eq_false] at hHolds
  cases hHolds

/- A node that is passed is a 64-bit integer. -/
theorem holds_of_not_stops
    (h : ¬ t.stops = true) :
    t.holds = true := by
  rw [stops, Bool.or_eq_true, not_or] at h
  simpa using h.1

/- Only the remainder stops evaluation though it holds. -/
theorem isLeastRemainder_of_stops
    (h : t.stops = true)
    (hHolds : t.holds = true) :
    t.isLeastRemainder = true := by
  rw [stops, hHolds, Bool.not_true, Bool.false_or] at h
  exact h

/-
  Evaluation has an error only for a node that it stops
  at.
-/
theorem StopsWith.stops
    (h : t.StopsWith e) :
    t.stops = true := by
  cases h with
  | fault fault => simp [Arithmetic.stops, fault.holds_eq_false]
  | leastRemainder isLeast => simp [Arithmetic.stops, isLeast]

------------------------------------------------------------
-- One Node
------------------------------------------------------------

variable {result : Except ExprError Value}

theorem run_of_stopsWith
    (h : t.StopsWith e) :
    Run [t] t (.error e) :=
  .stopped (by simp [h.stops]) h

/-
  An operation that narrows its exact result gives it, or
  stops with an overflow.
-/
theorem run_of_narrow
    {i : Int}
    (hLeft : left.value? = some a.toInt)
    (hRight : right.value? = some b.toInt)
    (hValue : (call o left right).value? = some i)
    (hOther : (call o left right).isLeastRemainder = false)
    (hResult :
      result =
        match narrow? i with
        | some v => .ok (.int v)
        | none => .error (.overflow o.func a b)) :
    Run [call o left right] (call o left right) result := by
  subst hResult
  by_cases hRange : InRange i
  · rcases Integer.narrow?_of_inRange hRange with
      ⟨v, rfl, hNarrow⟩
    rw [hNarrow]
    refine .value ?_ hValue
    simp [stops, holds_of_value? hValue, hOther]
  · have hNarrow : narrow? i = none := if_neg hRange
    rw [hNarrow]
    exact
      run_of_stopsWith
        (.fault (.overflow hLeft hRight hValue hRange))

/- The remainder by minus one of the least integer. -/
theorem run_leastRemainder
    (hLeft : left.value? = some Int64.minValue.toInt)
    (hRight : right.value? = some (-1)) :
    Run [call .mod left right] (call .mod left right)
      (Func.mod.arithmetic (.int Int64.minValue)
        (.int (-1))) := by
  refine run_of_stopsWith (.leastRemainder ?_)
  simp [isLeastRemainder, hLeft, hRight]

/-
  An operation on two integers, for all five operations: a
  zero divisor comes first, and then what is no 64-bit
  result.
-/
theorem arithmetic_int
    (o : Operation)
    (a b : Int64) :
    o.func.arithmetic (.int a) (.int b) =
      if o.divides = true ∧ b = 0 then .error .divisionByZero
      else
        match o.func.exactly? a.toInt b.toInt with
        | some v => .ok (.int v)
        | none => .error (.overflow o.func a b) := by
  have hDivides :
      (o.func = .div ∨ o.func = .mod) ↔ o.divides = true := by
    cases o <;> decide
  have hStep :
      o.func.arithmetic (.int a) (.int b) =
        if (o.func = .div ∨ o.func = .mod) ∧ b = 0 then
          .error .divisionByZero
        else
          match o.func.exactly? a.toInt b.toInt with
          | some v => .ok (.int v)
          | none => .error (.overflow o.func a b) :=
    rfl
  rw [hStep]
  simp only [hDivides]

/-
  One step: an operation on two 64-bit integers gives their
  exact result, or stops.
-/
theorem run_arithmetic
    (o : Operation)
    (hLeft : left.value? = some a.toInt)
    (hRight : right.value? = some b.toInt) :
    Run [call o left right] (call o left right)
      (o.func.arithmetic (.int a) (.int b)) := by
  have hStep := arithmetic_int o a b
  have hValue :
      (call o left right).value? =
        o.result? a.toInt b.toInt := by
    simp [value?, hLeft, hRight]
  by_cases hZero : o.divides = true ∧ b = 0
  · rw [if_pos hZero] at hStep
    rw [hZero.2] at hRight
    rw [hStep]
    exact run_of_stopsWith (.fault (.zeroDivisor hZero.1 hRight))
  · rw [if_neg hZero] at hStep
    cases o with
    | add => exact run_of_narrow hLeft hRight hValue rfl hStep
    | sub => exact run_of_narrow hLeft hRight hValue rfl hStep
    | mul => exact run_of_narrow hLeft hRight hValue rfl hStep
    | div =>
        have hDivisor : b.toInt ≠ 0 := fun hEq =>
          hZero ⟨rfl, Int64.toInt_inj.mp hEq⟩
        rw [Operation.result?, if_neg hDivisor] at hValue
        exact run_of_narrow hLeft hRight hValue rfl hStep
    | mod =>
        have hDivisor : b.toInt ≠ 0 := fun hEq =>
          hZero ⟨rfl, Int64.toInt_inj.mp hEq⟩
        rw [Operation.result?, if_neg hDivisor] at hValue
        by_cases hLeast :
            a.toInt = Int64.minValue.toInt ∧ b.toInt = -1
        · have hA : a = Int64.minValue :=
            Int64.toInt_inj.mp hLeast.1
          have hB : b = -1 := Int64.toInt_inj.mp hLeast.2
          subst hA
          subst hB
          exact run_leastRemainder hLeft hRight
        · -- The quotient is in range, so that only the
          -- remainder is narrowed.
          rcases Integer.narrow?_of_inRange
              (Integer.inRange_tdiv (Integer.inRange_toInt a)
                hDivisor hLeast) with
            ⟨q, _, hQuotient⟩
          have hExactly :
              Func.mod.exactly? a.toInt b.toInt =
                narrow? (a.toInt.tmod b.toInt) := by
            simp only [Func.exactly?, hQuotient,
              Option.bind_some]
          have hOther :
              (call .mod left right).isLeastRemainder =
                false := by
            simpa [isLeastRemainder, hLeft, hRight] using hLeast
          refine run_of_narrow hLeft hRight hValue hOther ?_
          rw [← hExactly]
          exact hStep

------------------------------------------------------------
-- Whole Trees
------------------------------------------------------------

/-
  Both arguments of an operation are evaluated, left
  before right, before it is applied.
-/
theorem eval_call
    (s : Scope)
    (o : Operation)
    (left right : Expr) :
    (Expr.call o.func [left, right]).eval s =
      (left.eval s >>= fun a =>
        right.eval s >>= fun b => o.func.arithmetic a b) := by
  have hApply (a b : Value) :
      o.func.apply s [a, b] = o.func.arithmetic a b := by
    cases o <;> rfl
  rw [Expr.eval, Expr.evalArgs, Expr.evalArgs, Expr.evalArgs]
  cases left.eval s with
  | error cause => rfl
  | ok a =>
      cases right.eval s with
      | error cause => rfl
      | ok b => exact hApply a b

/- A run goes on after nodes that it passes. -/
theorem Run.after
    {before nodes : List Arithmetic}
    (h : Run nodes t result)
    (hPassed : before.find? stops = none) :
    Run (before ++ nodes) t result := by
  cases h with
  | value passed exact =>
      refine .value ?_ exact
      rw [List.find?_append, hPassed, Option.none_or, passed]
  | stopped first error =>
      refine .stopped ?_ error
      rw [List.find?_append, hPassed, Option.none_or, first]

/- A run does not look at nodes after it has stopped. -/
theorem run_of_stopped
    {n : Arithmetic}
    {nodes : List Arithmetic}
    (first : nodes.find? stops = some n)
    (error : n.StopsWith e)
    (others : List Arithmetic) :
    Run (nodes ++ others) t (.error e) := by
  refine .stopped ?_ error
  rw [List.find?_append, first, Option.some_or]

/- Evaluation is a run over the nodes of the tree. -/
theorem run_eval
    (s : Scope)
    (t : Arithmetic) :
    Run t.nodes t (t.expr.eval s) := by
  induction t with
  | int v =>
      have hHolds : (int v).holds = true :=
        holds_of_value? rfl
      rw [expr, Expr.eval]
      refine .value ?_ rfl
      simp [nodes, stops, isLeastRemainder, hHolds]
  | call o left right ihLeft ihRight =>
      -- The operation is the last node of the call, and runs
      -- only if no node of either argument has stopped.
      rw [expr, eval_call]
      unfold nodes
      generalize left.expr.eval s = first at ihLeft ⊢
      cases ihLeft with
      | stopped first error =>
          exact run_of_stopped first error _
      | value passedLeft exactLeft =>
          refine Run.after ?_ passedLeft
          generalize right.expr.eval s = second at ihRight ⊢
          cases ihRight with
          | stopped first error =>
              exact run_of_stopped first error _
          | value passedRight exactRight =>
              refine Run.after ?_ passedRight
              exact run_arithmetic o exactLeft exactRight

------------------------------------------------------------
-- Outcomes
------------------------------------------------------------

/- A node decides the error that evaluation stops with. -/
theorem StopsWith.unique
    {e' : ExprError}
    (h : t.StopsWith e)
    (h' : t.StopsWith e') :
    e = e' := by
  cases h with
  | fault fault =>
      cases h' with
      | fault fault' => exact fault.unique fault'
      | leastRemainder isLeast =>
          rw [fault.isLeastRemainder_eq_false] at isLeast
          cases isLeast
  | leastRemainder isLeast =>
      cases h' with
      | fault fault =>
          rw [fault.isLeastRemainder_eq_false] at isLeast
          cases isLeast
      | leastRemainder => rfl

/- Nodes and their tree decide the result of a run. -/
theorem Run.unique
    {ns : List Arithmetic}
    {result' : Except ExprError Value}
    (h : Run ns t result)
    (h' : Run ns t result') :
    result = result' := by
  cases h with
  | value passed exact =>
      cases h' with
      | value _ exact' =>
          rw [exact, Option.some_inj, Int64.toInt_inj] at exact'
          rw [exact']
      | stopped first =>
          rw [passed] at first
          cases first
  | stopped first error =>
      cases h' with
      | value passed =>
          rw [passed] at first
          cases first
      | stopped first' error' =>
          rw [first, Option.some_inj] at first'
          subst first'
          rw [error.unique error']

/- The first node that stops evaluation is the remainder. -/
theorem meetsLeastRemainder_iff :
    t.MeetsLeastRemainder ↔
      ∃ n, t.nodes.find? stops = some n ∧
        n.isLeastRemainder = true := by
  constructor
  · rintro ⟨before, n, after, hSplit, hHeld, hLeast⟩
    rw [hSplit, List.find?_append]
    cases hFirst : before.find? stops with
    | none =>
        have hStops : n.stops = true := by
          simp [stops, hLeast]
        exact ⟨n, by simp [hStops], hLeast⟩
    | some m =>
        have hHolds := hHeld m (List.mem_of_find?_eq_some hFirst)
        have hStops := List.find?_some hFirst
        exact ⟨m, rfl, isLeastRemainder_of_stops hStops hHolds⟩
  · rintro ⟨n, hFirst, hLeast⟩
    rcases List.find?_eq_some_iff_append.mp hFirst with
      ⟨_, before, after, hSplit, hPassed⟩
    refine ⟨before, n, after, hSplit, ?_, hLeast⟩
    intro m hMember
    exact holds_of_not_stops (by simpa using hPassed m hMember)

/- Nodes that hold are passed, but for the remainder. -/
theorem find?_stops_eq_none
    {before after : List Arithmetic}
    (hSplit : t.nodes = before ++ after)
    (hHeld : ∀ n ∈ before, n.holds = true)
    (hMeets : ¬ t.MeetsLeastRemainder) :
    before.find? stops = none := by
  rw [List.find?_eq_none]
  intro n hMember hStops
  have hLeast :=
    isLeastRemainder_of_stops hStops (hHeld n hMember)
  rcases List.append_of_mem hMember with ⟨front, back, rfl⟩
  refine hMeets ⟨front, n, back ++ after, ?_, ?_, hLeast⟩
  · rw [hSplit, List.append_assoc, List.cons_append]
  · intro m hFront
    exact hHeld m (List.mem_append_left _ hFront)

/- Where the remainder is not met, runs have the outcomes. -/
theorem run_iff_outcome
    (hMeets : ¬ t.MeetsLeastRemainder) :
    Run t.nodes t result ↔ t.Outcome result := by
  constructor
  · intro hRun
    cases hRun with
    | value passed exact =>
        refine .value ?_ exact
        intro n hMember
        exact
          holds_of_not_stops
            (List.find?_eq_none.mp passed n hMember)
    | stopped first error =>
        rcases List.find?_eq_some_iff_append.mp first with
          ⟨_, before, after, hSplit, hPassed⟩
        cases error with
        | leastRemainder isLeast =>
            have hMet :=
              meetsLeastRemainder_iff.mpr ⟨_, first, isLeast⟩
            exact absurd hMet hMeets
        | fault fault =>
            refine .fault hSplit ?_ fault
            intro m hMember
            exact
              holds_of_not_stops
                (by simpa using hPassed m hMember)
  · intro hOutcome
    cases hOutcome with
    | value held exact =>
        have hSplit := (List.append_nil t.nodes).symm
        exact
          .value (find?_stops_eq_none hSplit held hMeets) exact
    | @fault before after n e split held fault =>
        have hPassed := find?_stops_eq_none split held hMeets
        have hStops : n.stops = true :=
          (StopsWith.fault fault).stops
        refine .stopped ?_ (.fault fault)
        rw [split, List.find?_append, hPassed]
        simp [hStops]

/- No remainder is beyond 64 bits. -/
theorem not_fault_mod
    {x y : Int64} :
    ¬ t.Fault (.overflow .mod x y) := by
  intro hFault
  generalize hError : ExprError.overflow .mod x y = e at hFault
  cases hFault with
  | zeroDivisor => cases hError
  | @overflow o left right a b i first second value outside =>
      cases o with
      | mod =>
          simp only [value?, first, second, Option.bind_some,
            Operation.result?] at value
          split at value
          · cases value
          · cases value
            exact
              outside
                (Integer.inRange_tmod (Integer.inRange_toInt a)
                  b.toInt)
      | _ => cases hError

/-
  A tree is evaluated to its outcome over all integers,
  unless it meets the remainder of the least integer by
  minus one.  It then fails with an overflow of that
  remainder, which never is the outcome.
-/
theorem eval_eq_iff_outcome
    (s : Scope)
    (t : Arithmetic) :
    (¬ t.MeetsLeastRemainder →
        ∀ result, t.expr.eval s = result ↔ t.Outcome result) ∧
      (t.MeetsLeastRemainder →
        t.expr.eval s =
            .error (.overflow .mod Int64.minValue (-1)) ∧
          ¬ t.Outcome
            (.error (.overflow .mod Int64.minValue (-1)))) := by
  have hRun := t.run_eval s
  constructor
  · intro hMeets result
    rw [← run_iff_outcome hMeets]
    constructor
    · rintro rfl
      exact hRun
    · intro hOther
      exact hRun.unique hOther
  · intro hMeets
    rcases meetsLeastRemainder_iff.mp hMeets with
      ⟨n, hFirst, hLeast⟩
    constructor
    · exact hRun.unique (.stopped hFirst (.leastRemainder hLeast))
    · intro hOutcome
      cases hOutcome with
      | fault _ _ fault => exact not_fault_mod fault

/- What an evaluation without columns can see. -/
def plainScope : Scope :=
  ⟨.mysql, default, default⟩

/- A product beyond 64 bits, divided by zero. -/
def greatProduct : Arithmetic :=
  call .div (call .mul (int Int64.maxValue) (int 2))
    (call .sub (int 1) (int 1))

/- The least integer, divided by minus one for a remainder. -/
def leastRemainder : Arithmetic :=
  call .mod (int Int64.minValue) (int (-1))

theorem eval_greatProduct :
    ¬ greatProduct.MeetsLeastRemainder ∧
      greatProduct.Outcome
        (.error (.overflow .mul Int64.maxValue 2)) ∧
      greatProduct.expr.eval plainScope =
        .error (.overflow .mul Int64.maxValue 2) ∧
      leastRemainder.MeetsLeastRemainder ∧
      leastRemainder.expr.eval plainScope =
        .error (.overflow .mod Int64.minValue (-1)) := by
  have hFirst :
      greatProduct.nodes.find? stops =
        some (call .mul (int Int64.maxValue) (int 2)) := by
    decide
  have hMeets : ¬ greatProduct.MeetsLeastRemainder := by
    rw [meetsLeastRemainder_iff, hFirst]
    rintro ⟨n, hNode, hLeast⟩
    cases hNode
    cases hLeast
  have hOutcome :
      greatProduct.Outcome
        (.error (.overflow .mul Int64.maxValue 2)) := by
    have hSplit :
        greatProduct.nodes =
          [int Int64.maxValue, int 2] ++
            call .mul (int Int64.maxValue) (int 2) ::
              [int 1, int 1, call .sub (int 1) (int 1),
                greatProduct] :=
      rfl
    have hFault :
        (call .mul (int Int64.maxValue) (int 2)).Fault
          (.overflow .mul Int64.maxValue 2) :=
      .overflow (o := .mul) rfl rfl rfl (by decide)
    exact .fault hSplit (by decide) hFault
  have hMet : leastRemainder.MeetsLeastRemainder := by
    refine ⟨[int Int64.minValue, int (-1)], _, [], rfl, ?_, ?_⟩
    · decide
    · decide
  have hGreat :=
    (eval_eq_iff_outcome plainScope greatProduct).1 hMeets
  have hLeast :=
    (eval_eq_iff_outcome plainScope leastRemainder).2 hMet
  exact
    ⟨hMeets, hOutcome, (hGreat _).mpr hOutcome, hMet, hLeast.1⟩

/- The outcome is zero, but the evaluation overflows. -/
theorem leastRemainder_overflows :
    leastRemainder.Outcome (.ok (.int 0)) ∧
      leastRemainder.expr.eval plainScope =
        .error (.overflow .mod Int64.minValue (-1)) := by
  refine ⟨.value ?_ ?_, rfl⟩
  · decide
  · decide

end Arithmetic

end PartitionPruning
