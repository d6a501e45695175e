import PartitionPruning.Integer
import PartitionPruning.Text.CharClass

/-
  Decimal numerals for integers of 64 bits.

  Key definitions include:
    * `Numeral.digits`
    * `Numeral.ofInt`
    * `Numeral.natural?`
    * `Numeral.integer?`
    * `Numeral.int64?`
-/

namespace PartitionPruning

namespace Numeral

------------------------------------------------------------
-- Writing
------------------------------------------------------------

/- The decimal digits of a natural number. -/
def digits
    (n : Nat) : List Char :=
  Nat.toDigits 10 n

/- An integer in decimal, with a sign if it is negative. -/
def ofInt
    (i : Int) : List Char :=
  if i < 0 then '-' :: digits i.natAbs
  else digits i.natAbs

------------------------------------------------------------
-- Reading
------------------------------------------------------------

/- The number that a row of decimal digits denotes. -/
def value
    (cs : List Char) : Nat :=
  cs.foldl (fun n c => 10 * n + (c.toNat - 0x30)) 0

/- A numeral without a sign: one digit or more. -/
def natural?
    (cs : List Char) : Option Nat :=
  if cs ≠ [] ∧ cs.all CharClass.isDigit = true then
    some (value cs)
  else none

/- A numeral with or without a sign. -/
def integer? :
    List Char → Option Int
  | '-' :: cs => (natural? cs).map fun n => -(n : Int)
  | '+' :: cs => (natural? cs).map fun n => (n : Int)
  | cs => (natural? cs).map fun n => (n : Int)

/- A numeral whose value fits in 64 bits. -/
def int64?
    (cs : List Char) : Option Int64 :=
  (integer? cs).bind Integer.narrow?

end Numeral

end PartitionPruning
