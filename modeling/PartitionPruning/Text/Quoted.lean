import PartitionPruning.Text.Concealed

/-
  Text and bytes shown between double quotes.

  Key definitions include:
    * `Quoted.escape`
    * `Quoted.text`
    * `Quoted.escapeByte`
    * `Quoted.byteString`
-/

namespace PartitionPruning

namespace Quoted

/- A number in lower-case hexadecimal. -/
def hex
    (n : Nat) : List Char :=
  Nat.toDigits 16 n

/-
  A character of quoted text.  Quotes, backslashes and the
  common controls have short forms, other concealed
  characters are written by code point, and all else stands
  for itself.
-/
def escape
    (c : Char) : List Char :=
  if c.toNat = 0x00 then ['\\', '0']
  else if c.toNat = 0x09 then ['\\', 't']
  else if c.toNat = 0x0D then ['\\', 'r']
  else if c.toNat = 0x0A then ['\\', 'n']
  else if c.toNat = 0x22 ∨ c.toNat = 0x5C then ['\\', c]
  else if CodeRange.holds Concealed.ranges c then
    ['\\', 'u', Char.ofNat 0x7B] ++ hex c.toNat ++
      [Char.ofNat 0x7D]
  else [c]

/- A string between quotes. -/
def text
    (s : String) : String :=
  String.ofList
    ("\"".toList ++ s.toList.flatMap escape ++ "\"".toList)

/-
  A byte of a quoted byte string.  Bytes that are not
  printable ASCII are written as two hexadecimal digits.
-/
def escapeByte
    (b : UInt8) : List Char :=
  if b = 0x00 then ['\\', '0']
  else if b = 0x09 then ['\\', 't']
  else if b = 0x0D then ['\\', 'r']
  else if b = 0x0A then ['\\', 'n']
  else if b = 0x22 ∨ b = 0x5C then
    ['\\', Char.ofNat b.toNat]
  else if 0x20 ≤ b ∧ b < 0x7F then [Char.ofNat b.toNat]
  else if b < 0x10 then ['\\', 'x', '0'] ++ hex b.toNat
  else ['\\', 'x'] ++ hex b.toNat

/- A byte string between quotes, marked by a leading `b`. -/
def byteString
    (bs : List UInt8) : String :=
  String.ofList
    ("b\"".toList ++ bs.flatMap escapeByte ++ "\"".toList)

end Quoted

end PartitionPruning
