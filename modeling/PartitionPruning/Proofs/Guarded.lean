import Mathlib.Algebra.Group.Nat.Defs
import PartitionPruning.Dialect
import PartitionPruning.Integer
import PartitionPruning.Proofs.Steps

/-
  Computations that watch their numbers and their bytes.

  Numbers are kept in 64 bits here.  A guarded computation
  stops where a sum or a difference does not fit into them,
  and where it asks for bytes that are not there.  One that
  never stops computes what is computed on integers.

  Key definitions include:
    * `Guarded`
    * `Guarded.Computes`
    * `Guarded.add`
    * `Guarded.slice`
    * `Guarded.next`
    * `Guarded.position`

  Main declarations:
    * `Guarded.Computes.bind`
    * `Guarded.add_eq_ok`
    * `Guarded.next_append`
    * `Guarded.part_eq_ok`
    * `Guarded.position_eq_ok`
-/

namespace PartitionPruning

------------------------------------------------------------
-- Stops
------------------------------------------------------------

/-
  Why a guarded computation stops: a number does not fit, a
  byte is not there, or it fails for a reason of its own.
-/
inductive Guarded.Stop
    (ε : Type) where
  | overflow
  | outside
  | failed (cause : ε)

/- A computation that watches its numbers and its bytes. -/
abbrev Guarded
    (ε α : Type) :=
  Except (Guarded.Stop ε) α

namespace Guarded

variable {ε α : Type}

/- A result that is there without any guard. -/
def ofResult : Except ε α → Guarded ε α
  | .ok a => .ok a
  | .error cause => .error (.failed cause)

@[simp]
theorem ofResult_ok
    (a : α) :
    ofResult (.ok a : Except ε α) = .ok a :=
  rfl

@[simp]
theorem ofResult_error
    (cause : ε) :
    ofResult (.error cause : Except ε α) =
      .error (.failed cause) :=
  rfl

/-
  A guarded computation computes what one without guards
  does: their results belong together, or both fail for the
  same reason.  It does not stop.
-/
inductive Computes
    {β : Type}
    (R : α → β → Prop) :
    Guarded ε α → Except ε β → Prop where
  | ok {a : α} {b : β} (h : R a b) :
      Computes R (.ok a) (.ok b)
  | failed (cause : ε) :
      Computes R (.error (.failed cause)) (.error cause)

/- Steps that compute the same do so one after another. -/
theorem Computes.bind
    {β γ δ : Type}
    {R : α → β → Prop}
    {S : γ → δ → Prop}
    {guarded : Guarded ε α}
    {plain : Except ε β}
    {f : α → Guarded ε γ}
    {g : β → Except ε δ}
    (h : Computes R guarded plain)
    (hNext :
      ∀ a b, plain = .ok b → R a b → Computes S (f a) (g b)) :
    Computes S (guarded >>= f) (plain >>= g) := by
  cases h with
  | ok hRelated => exact hNext _ _ rfl hRelated
  | failed cause => exact .failed cause

/-
  What computes the same result is that result, and never
  stops for a number or a byte.
-/
theorem Computes.eq_ofResult
    {guarded : Guarded ε α}
    {plain : Except ε α}
    (h : Computes Eq guarded plain) :
    guarded = ofResult plain := by
  cases h with
  | ok hSame => rw [hSame, ofResult_ok]
  | failed cause => rfl

------------------------------------------------------------
-- Numbers
------------------------------------------------------------

/- A number that has to be a signed one of 64 bits. -/
def fit
    (i : Int) : Guarded ε Int64 :=
  match Integer.narrow? i with
  | some v => .ok v
  | none => .error .overflow

/- A sum of signed numbers. -/
def add
    (a b : Int64) : Guarded ε Int64 :=
  fit (a.toInt + b.toInt)

/- A difference of signed numbers. -/
def sub
    (a b : Int64) : Guarded ε Int64 :=
  fit (a.toInt - b.toInt)

/- A sum of sizes, which have no sign. -/
def addSize
    (a b : UInt64) : Guarded ε UInt64 :=
  if a.toNat + b.toNat < UInt64.size then .ok (a + b)
  else .error .overflow

/- A difference of sizes. -/
def subSize
    (a b : UInt64) : Guarded ε UInt64 :=
  if b ≤ a then .ok (a - b) else .error .overflow

/- A sum of sizes that fits is the sum. -/
theorem addSize_eq_ok
    (ε : Type)
    {a b : UInt64}
    (h : a.toNat + b.toNat < UInt64.size) :
    (addSize a b : Guarded ε UInt64) = .ok (a + b) ∧
      (a + b).toNat = a.toNat + b.toNat := by
  refine ⟨if_pos h, ?_⟩
  rw [UInt64.toNat_add]
  exact Nat.mod_eq_of_lt h

/- What was added to a size can be taken off again. -/
theorem subSize_add
    {a b : UInt64}
    (h : a.toNat + b.toNat < UInt64.size) :
    (subSize (a + b) b : Guarded ε UInt64) = .ok a := by
  have hSum := (addSize_eq_ok ε h).2
  have hLess : b ≤ a + b := by
    rw [UInt64.le_iff_toNat_le, hSum]
    exact Nat.le_add_left _ _
  rw [subSize, if_pos hLess, UInt64.add_sub_cancel]

/- A number in range fits. -/
theorem fit_eq_ok
    (ε : Type)
    {i : Int}
    (h : Integer.InRange i) :
    ∃ v : Int64, (fit i : Guarded ε Int64) = .ok v ∧
      v.toInt = i := by
  rcases Integer.narrow?_of_inRange h with ⟨v, hValue, hNarrow⟩
  refine ⟨v, ?_, hValue⟩
  rw [fit, hNarrow]

/- A sum in range is computed. -/
theorem add_eq_ok
    (ε : Type)
    {a b : Int64}
    (h : Integer.InRange (a.toInt + b.toInt)) :
    ∃ v : Int64, (add a b : Guarded ε Int64) = .ok v ∧
      v.toInt = a.toInt + b.toInt :=
  fit_eq_ok ε h

/- A difference in range is computed. -/
theorem sub_eq_ok
    (ε : Type)
    {a b : Int64}
    (h : Integer.InRange (a.toInt - b.toInt)) :
    ∃ v : Int64, (sub a b : Guarded ε Int64) = .ok v ∧
      v.toInt = a.toInt - b.toInt :=
  fit_eq_ok ε h

/- The sum after the greatest number is out of range. -/
example :
    (add Int64.maxValue 1 : Guarded Unit Int64) =
      .error .overflow :=
  rfl

theorem toInt_zero :
    (0 : Int64).toInt = 0 :=
  rfl

theorem toInt_one :
    (1 : Int64).toInt = 1 :=
  rfl

/- Places counted from one have one before them. -/
theorem sub_one_eq_ok
    (ε : Type)
    {a : Int64}
    (h : 1 ≤ a.toInt) :
    ∃ v : Int64, (sub a 1 : Guarded ε Int64) = .ok v ∧
      v.toInt = a.toInt - 1 := by
  have hRange := Integer.inRange_iff.mp (Integer.inRange_toInt a)
  apply sub_eq_ok ε
  rw [toInt_one, Integer.inRange_iff]
  omega

/-
  One more than a place in a text is far from the greatest
  number.
-/
theorem add_one_eq_ok
    (ε : Type)
    {a : Int64}
    {n : Nat}
    (hSmall : n < 2 ^ 62)
    (h : a.toInt ≤ n) :
    ∃ v : Int64, (add a 1 : Guarded ε Int64) = .ok v ∧
      v.toInt = a.toInt + 1 := by
  have hRange := Integer.inRange_iff.mp (Integer.inRange_toInt a)
  apply add_eq_ok ε
  rw [toInt_one, Integer.inRange_iff]
  omega

/- A number that is not negative is a size. -/
theorem toNat_toUInt64
    {a : Int64}
    (h : 0 ≤ a.toInt) :
    a.toUInt64.toNat = a.toInt.toNat := by
  have hSmall := a.toBitVec.isLt
  have hNat : a.toUInt64.toNat = a.toBitVec.toNat := rfl
  rw [Int64.toInt, BitVec.toInt] at h ⊢
  rw [hNat]
  split at h
  · next hLow => rw [if_pos hLow, Int.toNat_natCast]
  · omega

/-
  The lesser of two numbers of 64 bits is the lesser one
  over all integers.
-/
theorem toInt_min
    (a b : Int64) :
    (min a b).toInt = min a.toInt b.toInt := by
  have hMin : min a b = if a ≤ b then a else b := rfl
  rw [hMin]
  split
  · next hLess =>
      rw [Int64.le_iff_toInt_le] at hLess
      omega
  · next hMore =>
      rw [Int64.le_iff_toInt_le] at hMore
      omega

------------------------------------------------------------
-- Bytes
------------------------------------------------------------

/- The bytes from one place on, up to another. -/
def slice
    (bs : List UInt8)
    (first stop : UInt64) : Guarded ε (List UInt8) :=
  if first ≤ stop ∧ stop.toNat ≤ bs.length then
    .ok ((bs.take stop.toNat).drop first.toNat)
  else .error .outside

/- The bytes without as many of the first. -/
def drain
    (bs : List UInt8)
    (count : UInt64) : Guarded ε (List UInt8) :=
  if count.toNat ≤ bs.length then .ok (bs.drop count.toNat)
  else .error .outside

/- So many bytes, which are taken off the others. -/
def next
    (count : UInt64)
    (bs : List UInt8) :
    Guarded ε (List UInt8 × List UInt8) := do
  let front ← slice bs 0 count
  let rest ← drain bs count
  .ok (front, rest)

/- The first of the bytes are left out, if they are there. -/
theorem drain_append
    {front : List UInt8}
    {count : UInt64}
    (h : front.length = count.toNat)
    (rest : List UInt8) :
    (drain (front ++ rest) count : Guarded ε _) =
      .ok rest := by
  have hThere : count.toNat ≤ (front ++ rest).length := by
    rw [List.length_append]
    omega
  rw [drain, if_pos hThere, ← h, List.drop_left]

/- The first of the bytes are taken off, if they are there. -/
theorem next_append
    {front : List UInt8}
    {count : UInt64}
    (h : front.length = count.toNat)
    (rest : List UInt8) :
    (next count (front ++ rest) : Guarded ε _) =
      .ok (front, rest) := by
  have hThere : count.toNat ≤ (front ++ rest).length := by
    rw [List.length_append]
    omega
  have hInside :
      0 ≤ count ∧ count.toNat ≤ (front ++ rest).length :=
    ⟨UInt64.zero_le, hThere⟩
  rw [next, slice, if_pos hInside, drain_append h, ← h,
    List.take_left]
  rfl

/- How many bytes there are, among the signed numbers. -/
def size
    (bs : List UInt8) : Int64 :=
  Int64.ofInt bs.length

/- The size of a text in memory is no negative number. -/
theorem toInt_size
    {bs : List UInt8}
    (h : bs.length < 2 ^ 62) :
    (size bs).toInt = bs.length := by
  apply Int64.toInt_ofInt_of_le
  · omega
  · omega

/- So many bytes from a position on, counted from one. -/
def part
    (bs : List UInt8)
    (p count : Int64) : Guarded ε (List UInt8) := do
  let first ← sub p 1
  let stop ← addSize first.toUInt64 count.toUInt64
  slice bs first.toUInt64 stop

/-
  A part that lies in a text is cut out of it: neither its
  start nor its end is outside.
-/
theorem part_eq_ok
    {bs : List UInt8}
    {p count : Int64}
    (hSize : bs.length < 2 ^ 62)
    (hFirst : 1 ≤ p.toInt)
    (hCount : 0 ≤ count.toInt)
    (hLast : p.toInt - 1 + count.toInt ≤ bs.length) :
    (part bs p count : Guarded ε (List UInt8)) =
      .ok ((bs.drop (p.toInt - 1).toNat).take
        count.toInt.toNat) := by
  rcases sub_one_eq_ok ε hFirst with ⟨first, hSub, hValue⟩
  have hFront : first.toUInt64.toNat = (p.toInt - 1).toNat := by
    rw [toNat_toUInt64 (by omega), hValue]
  have hMore : count.toUInt64.toNat = count.toInt.toNat :=
    toNat_toUInt64 hCount
  have hSum :
      first.toUInt64.toNat + count.toUInt64.toNat ≤
        bs.length := by
    omega
  have hFits :
      first.toUInt64.toNat + count.toUInt64.toNat <
        UInt64.size := by
    rw [UInt64.size]
    omega
  rcases addSize_eq_ok ε hFits with ⟨hAdd, hStop⟩
  have hInside :
      first.toUInt64 ≤ first.toUInt64 + count.toUInt64 ∧
        (first.toUInt64 + count.toUInt64).toNat ≤
          bs.length := by
    rw [UInt64.le_iff_toNat_le, hStop]
    omega
  unfold part
  simp only [hSub, hAdd, Steps.ok_bind]
  rw [slice, if_pos hInside, hStop, hFront, hMore,
    List.drop_take, Nat.add_sub_cancel_left]

------------------------------------------------------------
-- Positions
------------------------------------------------------------

/- A start as a position: a negative one counts from the end. -/
def counted
    (size start : Int64) : Guarded ε Int64 :=
  if start < 0 then do
    let next ← add size 1
    add start next
  else .ok start

/- The position that a start names among `size` bytes. -/
def position
    (d : Dialect)
    (size start : Int64) : Guarded ε Int64 := do
  let p ← counted size start
  .ok (if p = 0 ∧ d = .oracle then 1 else p)

variable {size : Int64}
variable {n : Nat}

/-
  A start that is counted from the end is counted from the
  first byte, and may then lie before it.
-/
theorem counted_eq_ok
    (ε : Type)
    (hSize : size.toInt = n)
    (hSmall : n < 2 ^ 62)
    (start : Int64) :
    ∃ p : Int64, (counted size start : Guarded ε Int64) =
        .ok p ∧
      p.toInt =
        if start.toInt < 0 then start.toInt + n + 1
        else start.toInt := by
  have hLower := start.minValue_le_toInt
  rw [Int64.toInt_minValue] at hLower
  unfold counted
  simp only [Int64.lt_iff_toInt_lt, toInt_zero]
  split
  · next hNegative =>
      rcases add_one_eq_ok ε hSmall (Int.le_of_eq hSize) with
        ⟨next, hAdd, hValue⟩
      have hSum :
          Integer.InRange (start.toInt + next.toInt) := by
        rw [Integer.inRange_iff]
        omega
      rcases add_eq_ok ε hSum with ⟨p, hAdds, hPlace⟩
      refine ⟨p, ?_, by omega⟩
      rw [hAdd, Steps.ok_bind, hAdds]
  · exact ⟨start, rfl, rfl⟩

/- Oracle's reading of zero, after the counting. -/
theorem toInt_position
    (d : Dialect)
    {start p : Int64}
    (hCounted :
      p.toInt =
        if start.toInt < 0 then start.toInt + n + 1
        else start.toInt) :
    (if p = 0 ∧ d = .oracle then 1 else p : Int64).toInt =
      d.position n start.toInt := by
  have hZero : p = 0 ↔ p.toInt = 0 := by
    rw [← toInt_zero, Int64.toInt_inj]
  unfold Dialect.position
  simp only [← hCounted, hZero]
  split
  · exact toInt_one
  · rfl

/- The position of a start is the one over all integers. -/
theorem position_eq_ok
    (ε : Type)
    (d : Dialect)
    (hSize : size.toInt = n)
    (hSmall : n < 2 ^ 62)
    (start : Int64) :
    ∃ p : Int64, (position d size start : Guarded ε Int64) =
        .ok p ∧
      p.toInt = d.position n start.toInt := by
  rcases counted_eq_ok ε hSize hSmall start with
    ⟨p, hCount, hValue⟩
  refine ⟨if p = 0 ∧ d = .oracle then 1 else p, ?_, ?_⟩
  · unfold position
    rw [hCount]
    rfl
  · exact toInt_position d hValue

/- How many bytes there are from a position on. -/
def available
    (size p : Int64) : Guarded ε Int64 := do
  let later ← sub size p
  add later 1

/- From a position in a text there is a byte at least. -/
theorem available_eq_ok
    (ε : Type)
    (hSize : size.toInt = n)
    (hSmall : n < 2 ^ 62)
    {p : Int64}
    (hFirst : 1 ≤ p.toInt)
    (hLast : p.toInt ≤ n) :
    ∃ m : Int64, (available size p : Guarded ε Int64) =
        .ok m ∧
      m.toInt = n - p.toInt + 1 := by
  have hLess : Integer.InRange (size.toInt - p.toInt) := by
    rw [Integer.inRange_iff]
    omega
  rcases sub_eq_ok ε hLess with ⟨later, hSub, hLater⟩
  have hMost : later.toInt ≤ n := by omega
  rcases add_one_eq_ok ε hSmall hMost with ⟨m, hAdd, hValue⟩
  refine ⟨m, ?_, by omega⟩
  unfold available
  rw [hSub, Steps.ok_bind, hAdd]

end Guarded

end PartitionPruning
