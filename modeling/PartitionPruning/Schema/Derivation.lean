import PartitionPruning.Schema.Basic
import PartitionPruning.Value

/-
  The value of a generated key from the value of its source.

  Only substrings are derived.  Where the start or length of
  the substring does not lie in the source's text, the
  source's value is kept.

  Key definitions include:
    * `Derivation.slice?`
    * `PartKey.derive`
-/

namespace PartitionPruning

namespace Derivation

/- A number from one to `size`. -/
def Inside
    (size : Nat)
    (i : Int) : Prop :=
  1 ≤ i ∧ i ≤ size

instance
    (size : Nat)
    (i : Int) :
    Decidable (Inside size i) := by
  unfold Inside
  infer_instance

/-
  The slice of a text of `size` bytes that a start and a
  length select, as the bytes before it and the bytes before
  its end.  A missing length runs to the end of the text.
-/
def slice?
    (d : Dialect)
    (size : Nat)
    (start? length? : Option Int64) : Option (Nat × Nat) :=
  match start? with
  | none => none
  | some start =>
      let p := d.position size start.toInt
      let length : Int :=
        match length? with
        | some v => v.toInt
        | none => size - p + 1
      if Inside size p ∧ Inside size length then
        some ((p - 1).toNat, Nat.min (p - 1 + length).toNat size)
      else none

/- The bytes of a text that a generator selects. -/
def substring
    (d : Dialect)
    (g : Generator)
    (bytes : List UInt8) : List UInt8 :=
  match slice? d bytes.length (g.int? 1) (g.int? 2) with
  | some (before, stop) => (bytes.take stop).drop before
  | none => bytes

end Derivation

namespace PartKey

/- The value of the key that `source` feeds. -/
def derive
    (source : PartKey)
    (d : Dialect)
    (v : Value) : Except Failure Value :=
  match source.generator? with
  | none => .error (.noGenerator source.name)
  | some g =>
      if g.func = .substr then
        match v with
        | .text bytes c =>
            .ok (.text (Derivation.substring d g bytes) c)
        | v => .ok v
      else .error (.unsupportedGenerator g.func)

end PartKey

end PartitionPruning
