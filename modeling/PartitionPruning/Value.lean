import PartitionPruning.Collation
import PartitionPruning.Text.Numeral
import PartitionPruning.Text.Utf8

/-
  Scalar values that bound partition columns.

  Key definitions include:
    * `Value`
    * `Value.withCollation`
    * `Value.text?`
    * `Value.int?`
    * `Value.sameBound?`
    * `Value.display`
-/

namespace PartitionPruning

/-
  A value of a bound.  `least` and `greatest` lie below and
  above every other value, and a bound that nothing has set
  is `null`.
-/
inductive Value where
  | null
  | int (v : Int64)
  | text (bytes : List UInt8) (collation : Collation)
  | least
  | greatest
deriving DecidableEq, Repr, Inhabited

namespace Value

------------------------------------------------------------
-- Parts Of A Value
------------------------------------------------------------

/- The value is `null`. -/
def isNull : Value → Bool
  | null => true
  | _ => false

/- The bytes of a string value. -/
def bytes? : Value → Option (List UInt8)
  | text bytes _ => some bytes
  | _ => none

/- A string value under another collation. -/
def withCollation
    (c : Collation) : Value → Value
  | text bytes _ => text bytes c
  | v => v

/- The collation that is set last counts. -/
@[simp]
theorem withCollation_withCollation
    (c d : Collation)
    (v : Value) :
    (v.withCollation c).withCollation d =
      v.withCollation d := by
  cases v <;> rfl

------------------------------------------------------------
-- Operands Of Functions
------------------------------------------------------------

/- The text of a string, or an integer written in decimal. -/
def text? : Value → Option (List UInt8)
  | int v => some (Utf8.encode (Numeral.ofInt v.toInt))
  | text bytes _ => some bytes
  | _ => none

/-
  An integer, or the integer that a string spells out, white
  space around it aside.
-/
def int? : Value → Option Int64
  | int v => some v
  | text bytes _ =>
      (Utf8.decode? bytes).bind fun cs =>
        Numeral.int64? (CharClass.trim cs)
  | _ => none

------------------------------------------------------------
-- Comparison Of Bounds
------------------------------------------------------------

/- The letters `A` to `Z` as lower case, other bytes as is. -/
def foldByte
    (b : UInt8) : UInt8 :=
  if 0x41 ≤ b ∧ b ≤ 0x5A then b + 0x20 else b

/- Two byte strings agree up to ASCII case. -/
def sameLetters
    (a b : List UInt8) : Bool :=
  decide (a.map foldByte = b.map foldByte)

/-
  Whether two bounds are the same, or `none` when this can
  not be decided: one of them is `null`, or they are of
  different kinds.  Strings are compared without regard to
  ASCII case when the collation of either ignores it.
-/
def sameBound? : Value → Value → Option Bool
  | int a, int b => some (decide (a = b))
  | text a c, text b d =>
      if c.isCaseInsensitive || d.isCaseInsensitive then
        some (sameLetters a b)
      else some (decide (a = b))
  | least, least => some true
  | greatest, greatest => some true
  | least, greatest => some false
  | greatest, least => some false
  | _, _ => none

/-
  Whether `null` is the same bound as a value is not
  known.
-/
@[simp]
theorem sameBound?_null
    (a : Value) :
    a.sameBound? null = none := by
  cases a <;> rfl

@[simp]
theorem null_sameBound?
    (b : Value) :
    null.sameBound? b = none := by
  cases b <;> rfl

/- Integers are the same bound if they are equal. -/
@[simp]
theorem sameBound?_int
    (a b : Int64) :
    (int a).sameBound? (int b) = some (decide (a = b)) :=
  rfl

/-
  Under a collation that ignores case letters are compared
  without it, else strings by their bytes.
-/
@[simp]
theorem sameBound?_text
    (a b : List UInt8)
    (c d : Collation) :
    (text a c).sameBound? (text b d) =
      if c.isCaseInsensitive || d.isCaseInsensitive then
        some (sameLetters a b)
      else some (decide (a = b)) :=
  rfl

------------------------------------------------------------
-- Display
------------------------------------------------------------

/- A value for reading by people. -/
def display : Value → String
  | null => "NULL"
  | int v => String.ofList (Numeral.ofInt v.toInt)
  | text bytes _ => Utf8.lossy bytes
  | least => "MIN"
  | greatest => "MAX"

end Value

end PartitionPruning
