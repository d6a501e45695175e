import PartitionPruning.Text.Alphabetic
import PartitionPruning.Text.Numeric

/-
  Classes of characters that the expression language tells
  apart.

  Key definitions include:
    * `CharClass.isDigit`
    * `CharClass.isBlank`
    * `CharClass.isAlphabetic`
    * `CharClass.isAlphanumeric`
    * `CharClass.trim`
    * `CharClass.upper`
    * `CharClass.lower`
-/

namespace PartitionPruning

namespace CharClass

/- The digits `0` to `9`. -/
def isDigit
    (c : Char) : Bool :=
  decide (0x30 ≤ c.toNat ∧ c.toNat ≤ 0x39)

/- The code points with the Unicode property White_Space. -/
def blankRanges : Array CodeRange :=
  #[
    (0x9, 0xD), (0x20, 0x20), (0x85, 0x85), (0xA0, 0xA0),
    (0x1680, 0x1680), (0x2000, 0x200A), (0x2028, 0x2029),
    (0x202F, 0x202F), (0x205F, 0x205F), (0x3000, 0x3000)
  ]

/- White space. -/
def isBlank
    (c : Char) : Bool :=
  CodeRange.holds blankRanges c

/- Letters and what else counts as alphabetic. -/
def isAlphabetic
    (c : Char) : Bool :=
  CodeRange.holds Alphabetic.ranges c

/- Alphabetic characters and numerals of every script. -/
def isAlphanumeric
    (c : Char) : Bool :=
  isAlphabetic c || CodeRange.holds Numeric.ranges c

/- An alphabetic character is alphanumeric. -/
theorem isAlphanumeric_of_isAlphabetic
    {c : Char}
    (h : isAlphabetic c = true) :
    isAlphanumeric c = true := by
  simp [isAlphanumeric, h]

/- Text without the white space at its two ends. -/
def trim
    (cs : List Char) : List Char :=
  (((cs.dropWhile isBlank).reverse).dropWhile isBlank).reverse

/- The letters `a` to `z` in upper case, all else as it is. -/
def upper
    (s : String) : String :=
  String.ofList (s.toList.map Char.toUpper)

/- The letters `A` to `Z` in lower case, all else as it is. -/
def lower
    (s : String) : String :=
  String.ofList (s.toList.map Char.toLower)

end CharClass

end PartitionPruning
