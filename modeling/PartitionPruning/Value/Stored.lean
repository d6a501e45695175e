import PartitionPruning.Bytes.LittleEndian
import PartitionPruning.Value

/-
  The stored form of values, used for the defaults of a
  schema: a tag byte, then the content.

  An integer has eight bytes.  A string has its collation in
  two bytes, its length in four and then its bytes.  What
  follows a stored value is not read.

  Key definitions include:
    * `Stored.Fault`
    * `Value.store`
    * `Value.load`
-/

namespace PartitionPruning

namespace Stored

------------------------------------------------------------
-- Faults
------------------------------------------------------------

/- The parts of a stored value that can be cut off. -/
inductive Part where
  | intValue
  | stringHeader
  | stringBody
deriving DecidableEq, Repr

/- The name of a part in messages. -/
def Part.label : Part → String
  | .intValue => "int value"
  | .stringHeader => "string header"
  | .stringBody => "string body"

/- Why bytes are no stored value, or a value has no form. -/
inductive Fault where
  | empty
  | truncated (part : Part) (needed available : Nat)
  | unknownTag (tag : UInt8)
  | tooLong (size : Nat)
deriving DecidableEq, Repr

/- The wording of a fault. -/
def Fault.message : Fault → String
  | .empty => "encoded value is empty"
  | .truncated part needed available =>
      s!"encoded value truncated in {part.label}: " ++
        s!"need {needed} bytes, have {available}"
  | .unknownTag tag => s!"unknown value tag: {tag.toNat}"
  | .tooLong size =>
      s!"string of {size} bytes is too long to encode"

/- The first `n` bytes and the rest, for a named part. -/
def take
    (part : Part)
    (n : Nat)
    (bs : List UInt8) :
    Except Fault (List UInt8 × List UInt8) :=
  match LittleEndian.split? n bs with
  | some pieces => .ok pieces
  | none => .error (.truncated part n bs.length)

end Stored

------------------------------------------------------------
-- Writing And Reading
------------------------------------------------------------

namespace Value

open Stored

/- The stored form of a value. -/
def store : Value → Except Fault (List UInt8)
  | null => .ok [0]
  | int v =>
      .ok (1 :: LittleEndian.encode 8 v.toUInt64.toNat)
  | text bytes c =>
      if bytes.length < UInt32.size then
        .ok (2 :: (LittleEndian.encode 2 c.id.toNat ++
          LittleEndian.encode 4 bytes.length ++ bytes))
      else .error (.tooLong bytes.length)
  | least => .ok [3]
  | greatest => .ok [4]

/- The value whose stored form bytes begin with. -/
def load : List UInt8 → Except Fault Value
  | [] => .error .empty
  | 0 :: _ => .ok null
  | 1 :: rest => do
      let (bytes, _) ← take .intValue 8 rest
      .ok (int (Int64.ofInt (LittleEndian.signed bytes)))
  | 2 :: rest => do
      let (header, body) ← take .stringHeader 6 rest
      let collation := LittleEndian.value (header.take 2)
      let size := LittleEndian.value (header.drop 2)
      let (bytes, _) ← take .stringBody size body
      .ok (text bytes ⟨UInt16.ofNat collation⟩)
  | 3 :: _ => .ok least
  | 4 :: _ => .ok greatest
  | tag :: _ => .error (.unknownTag tag)

end Value

end PartitionPruning
