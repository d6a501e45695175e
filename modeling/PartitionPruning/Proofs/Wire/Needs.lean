import PartitionPruning.Proofs.Steps
import PartitionPruning.Wire.Value

/-
  The bytes that reading needs.

  A reader needs certain bytes for a result if it gives the
  result whatever follows them, and if it finds that they
  are cut off where the last of them are missing.  Readers
  one after another need their bytes one after another.

  Key definitions include:
    * `Wire.IsCut`
    * `Wire.Needs`

  Main declarations:
    * `Wire.Needs.bind`
    * `Wire.Needs.map`
    * `Wire.Needs.isCut_take`
    * `Wire.needs_take`
-/

namespace PartitionPruning

namespace Wire

variable {α β : Type}

/- The end of the packet cuts off a part of more bytes. -/
def IsCut
    (result : Except WireError α) : Prop :=
  ∃ part needed available,
    available < needed ∧
      result = .error (.truncated part needed available)

/-
  Reading needs the bytes of `front`.  The result may depend
  on the bytes after them, which most readers answer with.
-/
structure Needs
    (read : List UInt8 → Except WireError α)
    (front : List UInt8)
    (result : List UInt8 → α) : Prop where
  gives : ∀ rest, read (front ++ rest) = .ok (result rest)
  isCut :
    ∀ part, part <+: front → part ≠ front → IsCut (read part)

------------------------------------------------------------
-- Sequences
------------------------------------------------------------

/- What is cut off ends a sequence. -/
theorem IsCut.bind
    {step : Except WireError α}
    (h : IsCut step)
    (next : α → Except WireError β) :
    IsCut (step >>= next) := by
  rcases h with ⟨part, needed, available, hLess, rfl⟩
  exact ⟨part, needed, available, hLess, rfl⟩

/- Nothing is needed for a result that is given anyway. -/
theorem needs_nothing
    {read : List UInt8 → Except WireError α}
    {result : List UInt8 → α}
    (h : ∀ bs, read bs = .ok (result bs)) :
    Needs read [] result where
  gives := h
  isCut := by
    intro part hPrefix hNe
    exact absurd (List.prefix_nil.mp hPrefix) hNe

/- A part of `front ++ back` ends in `front` or in `back`. -/
theorem prefix_append_cases
    {part front back : List UInt8}
    (hPrefix : part <+: front ++ back)
    (hNe : part ≠ front ++ back) :
    (part <+: front ∧ part ≠ front) ∨
      ∃ rest, part = front ++ rest ∧
        rest <+: back ∧ rest ≠ back := by
  by_cases hFront : front <+: part
  · rcases hFront with ⟨rest, rfl⟩
    right
    refine ⟨rest, rfl, ?_, ?_⟩
    · exact (List.prefix_append_right_inj front).mp hPrefix
    · rintro rfl
      exact hNe rfl
  · left
    constructor
    · exact
        (List.prefix_or_prefix_of_prefix hPrefix
          (List.prefix_append front back)).resolve_right hFront
    · rintro rfl
      exact hFront (List.prefix_refl part)

/-
  A second reader, which goes on with the result of the
  first, needs its bytes after those of the first.
-/
theorem Needs.bind
    {read : List UInt8 → Except WireError α}
    {next : α → Except WireError β}
    {front back : List UInt8}
    {first : List UInt8 → α}
    {result : List UInt8 → β}
    (hFirst : Needs read front first)
    (hNext : Needs (fun bs => next (first bs)) back result) :
    Needs (fun bs => read bs >>= next) (front ++ back)
      result where
  gives := by
    intro rest
    rw [List.append_assoc, hFirst.gives]
    exact hNext.gives rest
  isCut := by
    intro part hPrefix hNe
    rcases prefix_append_cases hPrefix hNe with
      ⟨hPart, hOther⟩ | ⟨rest, rfl, hPart, hOther⟩
    · exact (hFirst.isCut part hPart hOther).bind next
    · rw [hFirst.gives]
      exact hNext.isCut rest hPart hOther

/- What is done with a result needs no further bytes. -/
theorem Needs.map
    {read : List UInt8 → Except WireError α}
    {next : α → Except WireError β}
    {front : List UInt8}
    {first : List UInt8 → α}
    {result : List UInt8 → β}
    (hFirst : Needs read front first)
    (hNext : ∀ bs, next (first bs) = .ok (result bs)) :
    Needs (fun bs => read bs >>= next) front result := by
  have hBoth := hFirst.bind (needs_nothing hNext)
  rwa [List.append_nil] at hBoth

------------------------------------------------------------
-- Cut Bytes
------------------------------------------------------------

/- Bytes with an end that is cut off still give the result. -/
theorem Needs.gives_take
    {read : List UInt8 → Except WireError α}
    {front : List UInt8}
    {result : List UInt8 → α}
    (h : Needs read front result)
    {k : Nat}
    (hLength : front.length ≤ k)
    (rest : List UInt8) :
    read ((front ++ rest).take k) =
      .ok (result (rest.take (k - front.length))) := by
  rw [List.take_append, List.take_of_length_le hLength]
  exact h.gives _

/- Bytes that end before those that are needed are cut. -/
theorem Needs.isCut_take
    {read : List UInt8 → Except WireError α}
    {front : List UInt8}
    {result : List UInt8 → α}
    (h : Needs read front result)
    {k : Nat}
    (hLess : k < front.length)
    (rest : List UInt8) :
    IsCut (read ((front ++ rest).take k)) := by
  rw [List.take_append_of_le_length (Nat.le_of_lt hLess)]
  apply h.isCut _ (List.take_prefix k front)
  intro hSame
  have hLength := congrArg List.length hSame
  rw [List.length_take] at hLength
  omega

------------------------------------------------------------
-- Pieces
------------------------------------------------------------

variable {rest : List UInt8}

/- So many bytes are taken off the front, or none. -/
theorem take_eq_ok_iff
    {part : WirePart}
    {n : Nat}
    {bs front rest : List UInt8} :
    take part n bs = .ok (front, rest) ↔
      bs = front ++ rest ∧ front.length = n := by
  rw [← LittleEndian.split?_eq_some_iff]
  unfold take
  cases LittleEndian.split? n bs <;> simp

theorem take_append
    (part : WirePart)
    {n : Nat}
    {front : List UInt8}
    (hLength : front.length = n) :
    take part n (front ++ rest) = .ok (front, rest) := by
  subst hLength
  simp [take]

/- Too few bytes are cut off, and the error counts them. -/
theorem take_of_lt
    (part : WirePart)
    {n : Nat}
    {bs : List UInt8}
    (hLess : bs.length < n) :
    take part n bs = .error (.truncated part n bs.length) := by
  simp [take, LittleEndian.split?, Nat.not_le.mpr hLess]

/- So many bytes need as many. -/
theorem needs_take
    (part : WirePart)
    {n : Nat}
    {front : List UInt8}
    (hLength : front.length = n) :
    Needs (take part n) front fun rest => (front, rest) where
  gives := fun _ => take_append part hLength
  isCut := by
    intro piece hPrefix hNe
    have hLess : piece.length < n := by
      rw [← hLength]
      exact
        Nat.lt_of_le_of_ne hPrefix.length_le
          fun hSame => hNe (hPrefix.eq_of_length hSame)
    exact ⟨part, n, piece.length, hLess, take_of_lt part hLess⟩

end Wire

end PartitionPruning
