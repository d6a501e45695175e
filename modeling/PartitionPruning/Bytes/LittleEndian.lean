/-
  Little-endian numbers of a fixed number of bytes.

  Key definitions include:
    * `LittleEndian.span`
    * `LittleEndian.encode`
    * `LittleEndian.value`
    * `LittleEndian.signed`
    * `LittleEndian.split?`

  Writing and reading undo each other:
    * `LittleEndian.value_encode`
    * `LittleEndian.encode_value`
    * `LittleEndian.split?_eq_some_iff`
-/

namespace PartitionPruning

namespace LittleEndian

------------------------------------------------------------
-- Numbers
------------------------------------------------------------

/- How many numbers `width` bytes can denote. -/
def span : Nat → Nat
  | 0 => 1
  | width + 1 => 256 * span width

/- The lowest `width` bytes of a number, lowest first. -/
def encode : Nat → Nat → List UInt8
  | 0, _ => []
  | width + 1, n =>
      UInt8.ofNat (n % 256) :: encode width (n / 256)

/- The number that bytes denote, lowest first. -/
def value : List UInt8 → Nat
  | [] => 0
  | b :: rest => b.toNat + 256 * value rest

/-
  The number that bytes denote in two's complement: the
  upper half of the values counts down from zero.
-/
def signed
    (bs : List UInt8) : Int :=
  let n := value bs
  if 2 * n < span bs.length then (n : Int)
  else (n : Int) - span bs.length

theorem span_pos
    (width : Nat) :
    0 < span width := by
  induction width with
  | zero => exact Nat.one_pos
  | succ w ih =>
      rw [span]
      omega

/- A number is written in as many bytes as its width. -/
@[simp]
theorem length_encode
    (width n : Nat) :
    (encode width n).length = width := by
  induction width generalizing n with
  | zero => rfl
  | succ w ih => simp [encode, ih]

/- Reading bytes gives back the number they were written for. -/
theorem value_encode
    (width n : Nat) :
    value (encode width n) = n % span width := by
  induction width generalizing n with
  | zero => simp [encode, value, span, Nat.mod_one]
  | succ w ih =>
      have hByte : (UInt8.ofNat (n % 256)).toNat = n % 256 := by
        simp
      rw [encode, value, hByte, ih, span, Nat.mod_mul]

/- Bytes denote a number below the span of their width. -/
theorem value_lt
    (bs : List UInt8) :
    value bs < span bs.length := by
  induction bs with
  | nil => simp [value, span]
  | cons b rest ih =>
      have hByte := b.toNat_lt
      rw [value, List.length_cons, span]
      omega

/- Bytes are the writing of the number that they denote. -/
theorem encode_value
    (bs : List UInt8) :
    encode bs.length (value bs) = bs := by
  induction bs with
  | nil => rfl
  | cons b rest ih =>
      have hByte := b.toNat_lt
      have hLow :
          (b.toNat + 256 * value rest) % 256 = b.toNat := by
        omega
      have hHigh :
          (b.toNat + 256 * value rest) / 256 = value rest := by
        omega
      rw [List.length_cons, value, encode, hLow, hHigh, ih,
        UInt8.ofNat_toNat]

------------------------------------------------------------
-- Pieces
------------------------------------------------------------

/- The first `n` bytes and the rest, if there are so many. -/
def split?
    (n : Nat)
    (bs : List UInt8) :
    Option (List UInt8 × List UInt8) :=
  if n ≤ bs.length then some (bs.splitAt n) else none

/- The pieces are the bytes, and the first has its length. -/
theorem split?_eq_some_iff
    {n : Nat}
    {bs front rest : List UInt8} :
    split? n bs = some (front, rest) ↔
      bs = front ++ rest ∧ front.length = n := by
  unfold split?
  constructor
  · intro h
    split at h
    · next hLe =>
        rw [List.splitAt_eq] at h
        cases h
        exact
          ⟨(List.take_append_drop n bs).symm,
            List.length_take_of_le hLe⟩
    · cases h
  · rintro ⟨hEq, hLength⟩
    subst hEq
    subst hLength
    simp

@[simp]
theorem split?_append
    (front rest : List UInt8) :
    split? front.length (front ++ rest) =
      some (front, rest) :=
  split?_eq_some_iff.mpr ⟨rfl, rfl⟩

end LittleEndian

end PartitionPruning
