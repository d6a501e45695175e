import PartitionPruning.Text.Quoted
import PartitionPruning.Text.Utf8

/-
  The words of expression text and how messages show them.

  Key definitions include:
    * `Lexeme`
    * `Lexeme.display`
-/

namespace PartitionPruning

/- A word of expression text, or its end. -/
inductive Lexeme where
  | identifier (name : String)
  | number (digits : String)
  | text (bytes : List UInt8)
  | minus
  | leftParen
  | rightParen
  | comma
  | eof
deriving DecidableEq, Repr, Inhabited

namespace Lexeme

/- Bytes in decimal between brackets. -/
def displayBytes
    (bs : List UInt8) : String :=
  "[" ++ ", ".intercalate (bs.map fun b => Nat.repr b.toNat) ++
    "]"

/- A lexeme as messages show it. -/
def display : Lexeme → String
  | identifier name => s!"Identifier({Quoted.text name})"
  | number digits => s!"Number({Quoted.text digits})"
  | text bytes => s!"String({displayBytes bytes})"
  | minus => "Minus"
  | leftParen => "LeftParen"
  | rightParen => "RightParen"
  | comma => "Comma"
  | eof => "Eof"

end Lexeme

end PartitionPruning
