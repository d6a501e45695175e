import PartitionPruning.Proofs.Wire.Encoding
import PartitionPruning.Proofs.Wire.Needs

/-
  Arguments read back one by one.

  Decoding the bytes of a content gives its value, and
  skipping them ends at the same place, for every form.
  Both need all of the bytes and no others.

  Main facts:
    * `Wire.needs_encodedLength`
    * `Argument.needs_decode`
    * `Argument.needs_skip`
-/

namespace PartitionPruning

------------------------------------------------------------
-- Numbers
------------------------------------------------------------

namespace LittleEndian

/- A number that fits is what its bytes denote. -/
theorem value_encode_of_lt
    {width n : Nat}
    (h : n < span width) :
    value (encode width n) = n := by
  rw [value_encode, Nat.mod_eq_of_lt h]

/- Two's complement reads back the signed numbers of a width. -/
theorem signed_encode
    {width : Nat}
    {i : Int}
    (hLower : -span width ≤ 2 * i)
    (hUpper : 2 * i < span width) :
    signed (encode width (i % span width).toNat) = i := by
  have hPositive : (0 : Int) < span width :=
    Int.natCast_pos.mpr (span_pos width)
  have hLess : (i % span width).toNat < span width := by
    have hBelow := Int.emod_lt_of_pos i hPositive
    have hAbove := Int.emod_nonneg i (Int.ne_of_gt hPositive)
    omega
  unfold signed
  rw [value_encode_of_lt hLess, length_encode]
  by_cases hNeg : i < 0
  · have hMod : i % span width = i + span width := by
      rw [← Int.add_emod_right]
      exact Int.emod_eq_of_lt (by omega) (by omega)
    rw [hMod, if_neg (by omega)]
    omega
  · have hMod : i % span width = i :=
      Int.emod_eq_of_lt (by omega) (by omega)
    rw [hMod, if_pos (by omega)]
    omega

/- An integer that fits is its low bytes, or wraps around. -/
theorem value_encode_emod
    {width : Nat}
    {i : Int}
    (hLower : 0 ≤ i)
    (hUpper : i < span width) :
    (value (encode width (i % span width).toNat) : Int) =
      i := by
  have hMod : i % span width = i :=
    Int.emod_eq_of_lt hLower hUpper
  rw [hMod, value_encode_of_lt (by omega)]
  omega

end LittleEndian

open LittleEndian (span)

------------------------------------------------------------
-- Pieces
------------------------------------------------------------

namespace Wire

variable {rest : List UInt8}

/- A number needs as many bytes as its width. -/
theorem needs_number
    (part : WirePart)
    {width n : Nat}
    (h : n < span width) :
    Needs (number part width) (LittleEndian.encode width n)
      fun rest => (n, rest) := by
  apply
    (needs_take part (LittleEndian.length_encode width n)).map
  intro bs
  simp [LittleEndian.value_encode_of_lt h]

theorem needs_byte
    (part : WirePart)
    (b : UInt8) :
    Needs (number part 1) [b] fun rest => (b.toNat, rest) := by
  have hTake : Needs (take part 1) [b] fun rest => ([b], rest) :=
    needs_take part rfl
  exact hTake.map fun _ => rfl

/- A length reads back, whichever width it takes. -/
theorem needs_encodedLength
    {n : Nat}
    (h : n < span 8) :
    Needs encodedLength (writeLength n)
      fun rest => (n, rest) := by
  unfold writeLength
  split
  · next hOne =>
      have hByte : n < span 1 := Nat.lt_trans hOne (by decide)
      apply (needs_number .encodedLength hByte).map
      intro bs
      dsimp only
      -- No length of one byte announces a wider number.
      split
      · omega
      · omega
      · omega
      · rfl
  · split
    · next hTwo =>
        exact
          (needs_byte .encodedLength 0xFC).bind
            (needs_number .encodedLength hTwo)
    · split
      · next hThree =>
          exact
            (needs_byte .encodedLength 0xFD).bind
              (needs_number .encodedLength hThree)
      · exact
          (needs_byte .encodedLength 0xFE).bind
            (needs_number .encodedLength h)

/- A length is read back whichever width it is written in. -/
theorem encodedLength_writeLength
    {n : Nat}
    (h : n < span 8) :
    encodedLength (writeLength n ++ rest) = .ok (n, rest) :=
  (needs_encodedLength h).gives rest

/-
  An integer needs its bytes: with a sign or without, they
  denote what was encoded.
-/
theorem needs_integer
    (part : WirePart)
    {width : Nat}
    {unsigned : Bool}
    {i : Int}
    {v : Int64}
    (hFits : Content.IntegerFits width unsigned i)
    (hNarrow : Integer.narrow? i = some v) :
    Needs (integer part width unsigned)
      (LittleEndian.encode width (i % span width).toNat)
      fun rest => (.int v, rest) := by
  have hRead :
      (if unsigned then
          (LittleEndian.value
            (LittleEndian.encode width
              (i % span width).toNat) : Int)
        else
          LittleEndian.signed
            (LittleEndian.encode width
              (i % span width).toNat)) = i := by
    unfold Content.IntegerFits at hFits
    cases unsigned with
    | false =>
        rw [if_neg Bool.false_ne_true] at hFits ⊢
        exact LittleEndian.signed_encode hFits.1 hFits.2
    | true =>
        rw [if_pos rfl] at hFits ⊢
        exact LittleEndian.value_encode_emod hFits.1 hFits.2
  apply
    (needs_take part (LittleEndian.length_encode width _)).map
  intro bs
  dsimp only
  rw [hRead, hNarrow]

/- A string needs its length and as many bytes. -/
theorem needs_string
    {bytes : List UInt8}
    (h : bytes.length < span 8) :
    Needs string (writeLength bytes.length ++ bytes)
      fun rest => (.text bytes default, rest) :=
  (needs_encodedLength h).bind
    ((needs_take .stringValue rfl).map fun _ => rfl)

end Wire

------------------------------------------------------------
-- Contents
------------------------------------------------------------

namespace ParamType

open Wire

variable {t : ParamType}
variable {c : Content}

/- How the values of a type are read depends on its form only. -/
theorem decode_eq
    (t : ParamType) :
    match t.fieldType.form with
    | .nothing => t.decode = fun bs => .ok (.null, bs)
    | .integer width =>
        ∃ part, t.decode = integer part width t.unsigned
    | .floating _ => True
    | .temporal => True
    | .text => t.decode = string := by
  rcases t with ⟨fieldType, unsigned⟩
  cases fieldType <;>
    first
      | trivial
      | rfl
      | exact ⟨_, rfl⟩

/- How many bytes a value takes depends on its form only. -/
theorem extent_eq
    (t : ParamType) :
    t.extent =
      match t.fieldType.form with
      | .nothing => fun bs => .ok (0, bs)
      | .integer width => fun bs => .ok (width, bs)
      | .floating width => fun bs => .ok (width, bs)
      | .temporal => number .temporalLength 1
      | .text => encodedLength := by
  rcases t with ⟨fieldType, unsigned⟩
  cases fieldType <;> rfl

/- A content that can be read reads back as its value. -/
theorem needs_decode
    {v : Value}
    (hFits : c.Fits t.unsigned t.fieldType.form)
    (hValue : c.value? = some v)
    (hSize : (c.encode t.fieldType.form).length < span 8) :
    Needs t.decode (c.encode t.fieldType.form)
      fun rest => (v, rest) := by
  have hDecode := t.decode_eq
  cases hForm : t.fieldType.form with
  | nothing =>
      rw [hForm] at hFits hDecode
      cases c with
      | nothing =>
          cases hValue
          rw [hDecode]
          exact needs_nothing fun _ => rfl
      | _ => cases hFits
  | integer width =>
      rw [hForm] at hFits hDecode
      cases c with
      | integer i =>
          rcases hDecode with ⟨part, hDecode⟩
          rcases Option.map_eq_some_iff.mp hValue with
            ⟨w, hNarrow, rfl⟩
          rw [hDecode]
          exact needs_integer part hFits hNarrow
      | _ => cases hFits
  | floating width =>
      rw [hForm] at hFits
      cases c with
      | floating bits => cases hValue
      | _ => cases hFits
  | temporal =>
      rw [hForm] at hFits
      cases c with
      | temporal parts => cases hValue
      | _ => cases hFits
  | text =>
      rw [hForm] at hFits hDecode hSize
      cases c with
      | text bytes =>
          cases hValue
          rw [hDecode]
          apply needs_string
          have hLength := List.length_append ▸ hSize
          omega
      | _ => cases hFits

/- Skipping passes over as many bytes as the extent says. -/
theorem needs_skip_of_extent
    (front body : List UInt8)
    (hExtent :
      Needs t.extent front fun rest => (body.length, rest)) :
    Needs t.skip (front ++ body) fun rest => rest :=
  hExtent.bind ((needs_take .skippedValue rfl).map fun _ => rfl)

/- Every content is passed over as a whole. -/
theorem needs_skip
    (hFits : c.Fits t.unsigned t.fieldType.form)
    (hSize : (c.encode t.fieldType.form).length < span 8) :
    Needs t.skip (c.encode t.fieldType.form)
      fun rest => rest := by
  have hExtent := t.extent_eq
  cases hForm : t.fieldType.form with
  | nothing =>
      rw [hForm] at hFits hExtent
      cases c with
      | nothing =>
          apply needs_skip_of_extent [] []
          rw [hExtent]
          exact needs_nothing fun _ => rfl
      | _ => cases hFits
  | integer width =>
      rw [hForm] at hFits hExtent
      cases c with
      | integer i =>
          apply
            needs_skip_of_extent [] (LittleEndian.encode width _)
          rw [hExtent, LittleEndian.length_encode]
          exact needs_nothing fun _ => rfl
      | _ => cases hFits
  | floating width =>
      rw [hForm] at hFits hExtent
      cases c with
      | floating bits =>
          apply
            needs_skip_of_extent [] (LittleEndian.encode width _)
          rw [hExtent, LittleEndian.length_encode]
          exact needs_nothing fun _ => rfl
      | _ => cases hFits
  | temporal =>
      rw [hForm] at hFits hExtent
      cases c with
      | temporal parts =>
          have hByte : parts.length < span 1 := hFits
          apply needs_skip_of_extent
          rw [hExtent]
          exact needs_number .temporalLength hByte
      | _ => cases hFits
  | text =>
      rw [hForm] at hFits hExtent hSize
      cases c with
      | text bytes =>
          have hLength := List.length_append ▸ hSize
          apply needs_skip_of_extent
          rw [hExtent]
          exact needs_encodedLength (by omega)
      | _ => cases hFits

end ParamType

------------------------------------------------------------
-- Arguments
------------------------------------------------------------

namespace Argument

open Wire (Needs)

/- A null argument has no bytes among the values. -/
theorem encode_of_isNull
    {a : Argument}
    (h : a.isNull = true) :
    a.encode = [] := by
  unfold isNull at h
  unfold encode
  rw [Option.isNone_iff_eq_none.mp h]

theorem value?_of_isNull
    {a : Argument}
    (h : a.isNull = true) :
    a.value? = some .null := by
  unfold isNull at h
  unfold value?
  rw [Option.isNone_iff_eq_none.mp h]

/- The value of an argument needs all of its bytes. -/
theorem needs_decode
    {a : Argument}
    {v : Value}
    (hContent : a.isNull = false)
    (hValue : a.value? = some v)
    (hSize : a.encode.length < span 8) :
    Needs a.type.decode a.encode fun rest => (v, rest) := by
  rcases a with ⟨type, content?, fits⟩
  cases content? with
  | none => cases hContent
  | some c =>
      exact ParamType.needs_decode (fits c rfl) hValue hSize

/- Passing over an argument needs all of its bytes too. -/
theorem needs_skip
    {a : Argument}
    (hContent : a.isNull = false)
    (hSize : a.encode.length < span 8) :
    Needs a.type.skip a.encode fun rest => rest := by
  rcases a with ⟨type, content?, fits⟩
  cases content? with
  | none => cases hContent
  | some c => exact ParamType.needs_skip (fits c rfl) hSize

end Argument

end PartitionPruning
