import PartitionPruning.Bytes.LittleEndian
import PartitionPruning.Value
import PartitionPruning.Wire.Error

/-
  Parameter values in the binary protocol.

  `ParamType.decode` reads a value and `ParamType.skip`
  passes over one.  Both answer with the bytes that follow.

  Key definitions include:
    * `Wire.take`
    * `Wire.encodedLength`
    * `ParamType.decode`
    * `ParamType.skip`
-/

namespace PartitionPruning

namespace Wire

/- The first `n` bytes of a named part, and the rest. -/
def take
    (part : WirePart)
    (n : Nat)
    (bs : List UInt8) :
    Except WireError (List UInt8 × List UInt8) :=
  match LittleEndian.split? n bs with
  | some pieces => .ok pieces
  | none => .error (.truncated part n bs.length)

/- A number of `width` bytes. -/
def number
    (part : WirePart)
    (width : Nat)
    (bs : List UInt8) :
    Except WireError (Nat × List UInt8) := do
  let (bytes, rest) ← take part width bs
  .ok (LittleEndian.value bytes, rest)

/-
  A length that says how wide it is: a first byte below 0xFC
  is the length, and the three after it announce a number of
  two, three or eight bytes.
-/
def encodedLength
    (bs : List UInt8) :
    Except WireError (Nat × List UInt8) := do
  let (first, rest) ← number .encodedLength 1 bs
  match first with
  | 0xFC => number .encodedLength 2 rest
  | 0xFD => number .encodedLength 3 rest
  | 0xFE => number .encodedLength 8 rest
  | n => .ok (n, rest)

/- An integer of `width` bytes, if it fits in 64 bits. -/
def integer
    (part : WirePart)
    (width : Nat)
    (unsigned : Bool)
    (bs : List UInt8) :
    Except WireError (Value × List UInt8) := do
  let (bytes, rest) ← take part width bs
  let i :=
    if unsigned then (LittleEndian.value bytes : Int)
    else LittleEndian.signed bytes
  match Integer.narrow? i with
  | some v => .ok (.int v, rest)
  | none => .error (.valueOutOfRange (LittleEndian.value bytes))

/- A string after its length, under the default collation. -/
def string
    (bs : List UInt8) :
    Except WireError (Value × List UInt8) := do
  let (size, rest) ← encodedLength bs
  let (bytes, rest) ← take .stringValue size rest
  .ok (.text bytes default, rest)

end Wire

namespace ParamType

open Wire

/-
  The value of a parameter and the bytes after it.  Values
  of the floating and temporal types are not read.
-/
def decode
    (t : ParamType)
    (bs : List UInt8) :
    Except WireError (Value × List UInt8) :=
  match t.fieldType with
  | .null => .ok (.null, bs)
  | .tiny => integer .tinyValue 1 t.unsigned bs
  | .short => integer .shortValue 2 t.unsigned bs
  | .year => integer .shortValue 2 t.unsigned bs
  | .long => integer .longValue 4 t.unsigned bs
  | .int24 => integer .longValue 4 t.unsigned bs
  | .longLong => integer .longLongValue 8 t.unsigned bs
  | fieldType =>
      if fieldType.isLengthEncoded then string bs
      else .error (.unsupportedType fieldType)

/-
  How many bytes the value of a parameter takes, and the
  bytes after that number where the packet gives it.
-/
def extent
    (t : ParamType)
    (bs : List UInt8) :
    Except WireError (Nat × List UInt8) :=
  match t.fieldType with
  | .null => .ok (0, bs)
  | .tiny => .ok (1, bs)
  | .short => .ok (2, bs)
  | .year => .ok (2, bs)
  | .long => .ok (4, bs)
  | .int24 => .ok (4, bs)
  | .float => .ok (4, bs)
  | .longLong => .ok (8, bs)
  | .double => .ok (8, bs)
  | .date => number .temporalLength 1 bs
  | .time => number .temporalLength 1 bs
  | .dateTime => number .temporalLength 1 bs
  | .timestamp => number .temporalLength 1 bs
  | _ => encodedLength bs

/- The bytes after the value of a parameter. -/
def skip
    (t : ParamType)
    (bs : List UInt8) :
    Except WireError (List UInt8) := do
  let (size, rest) ← t.extent bs
  let (_, rest) ← take .skippedValue size rest
  .ok rest

end ParamType

end PartitionPruning
