/-
  Sequences of steps that can fail.

  The first failure ends a sequence, and a sequence that
  succeeds has gone through every step.

  Main declarations:
    * `Steps.ok_bind`
    * `Steps.error_bind`
    * `Steps.bind_ok`
    * `Steps.bind_eq_ok_iff`
    * `Steps.bind_eq_error_iff`
    * `Steps.map_eq_ok_iff`
    * `Steps.map_bind`
-/

namespace PartitionPruning

namespace Steps

variable {ε α β : Type}

@[simp]
theorem ok_bind
    (a : α)
    (f : α → Except ε β) :
    (Except.ok a >>= f) = f a :=
  rfl

@[simp]
theorem error_bind
    (cause : ε)
    (f : α → Except ε β) :
    (Except.error cause >>= f) = .error cause :=
  rfl

/- A last step that can not fail maps the result. -/
theorem bind_ok
    (step : Except ε α)
    (f : α → β) :
    (step >>= fun a => .ok (f a)) = step.map f := by
  cases step <;> rfl

/- A sequence that succeeds has gone through every step. -/
theorem bind_eq_ok_iff
    {step : Except ε α}
    {f : α → Except ε β}
    {b : β} :
    (step >>= f) = .ok b ↔
      ∃ a, step = .ok a ∧ f a = .ok b := by
  cases step with
  | error cause => simp
  | ok a => simp

/- A sequence fails with its first failure. -/
theorem bind_eq_error_iff
    {step : Except ε α}
    {f : α → Except ε β}
    {cause : ε} :
    (step >>= f) = .error cause ↔
      step = .error cause ∨
        ∃ a, step = .ok a ∧ f a = .error cause := by
  cases step with
  | error fault => simp
  | ok a => simp

/- A result that is mapped was there before. -/
theorem map_eq_ok_iff
    {step : Except ε α}
    {f : α → β}
    {b : β} :
    step.map f = .ok b ↔ ∃ a, step = .ok a ∧ f a = b := by
  cases step with
  | error cause => simp [Except.map]
  | ok a => simp [Except.map]

/- A step may be mapped by what the next does not see. -/
theorem map_bind
    {step : Except ε α}
    {f : α → Except ε β}
    {g : α → α}
    (h : ∀ a, f (g a) = f a) :
    (step.map g >>= f) = (step >>= f) := by
  cases step with
  | error cause => rfl
  | ok a => exact h a

end Steps

end PartitionPruning
