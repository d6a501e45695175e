import PartitionPruning.Text.Quoted
import PartitionPruning.Wire.FieldType

/-
  What can be wrong with a packet.

  Key definitions include:
    * `WirePart`
    * `WireError`
    * `WireError.message`
-/

namespace PartitionPruning

/- The parts of a packet that its end can cut off. -/
inductive WirePart where
  | executeHeader
  | nullBitmap
  | parameterTypes
  | tinyValue
  | shortValue
  | longValue
  | longLongValue
  | stringValue
  | temporalLength
  | skippedValue
  | encodedLength
  | prepareExecuteHeader
  | prepareExecuteQuery
  | longDataHeader
deriving DecidableEq, Repr

/- The name of a part in messages. -/
def WirePart.label : WirePart → String
  | executeHeader => "execute header"
  | nullBitmap => "null bitmap"
  | parameterTypes => "parameter types"
  | tinyValue => "tiny value"
  | shortValue => "short value"
  | longValue => "long value"
  | longLongValue => "longlong value"
  | stringValue => "string value"
  | temporalLength => "temporal length"
  | skippedValue => "skipped value"
  | encodedLength => "length-encoded integer"
  | prepareExecuteHeader => "prepare-execute header"
  | prepareExecuteQuery => "prepare-execute query"
  | longDataHeader => "send-long-data header"

/- Why a packet gives no value for a parameter. -/
inductive WireError where
  | truncated (part : WirePart) (needed available : Nat)
  | unknownFieldType (code : UInt8)
  | unsupportedType (t : FieldType)
  | indexOutOfRange (index count : Nat)
  | missingTypes
  | valueOutOfRange (v : Nat)
deriving DecidableEq, Repr

/- A byte as two hexadecimal digits. -/
def WireError.hexByte
    (b : UInt8) : String :=
  String.ofList
    ((if b < 0x10 then ['0'] else []) ++ Quoted.hex b.toNat)

/- The wording of a packet error. -/
def WireError.message : WireError → String
  | truncated part needed available =>
      s!"Packet truncated in {part.label}: " ++
        s!"need {needed} bytes, have {available}"
  | unknownFieldType code =>
      s!"Unknown field type: 0x{hexByte code}"
  | unsupportedType t => s!"Unsupported parameter type: {t.name}"
  | indexOutOfRange index count =>
      s!"Parameter index {index} out of range " ++
        s!"for {count} parameters"
  | missingTypes =>
      "Parameter types not bound and not declared"
  | valueOutOfRange v =>
      s!"Unsigned value {v} does not fit a signed integer"

end PartitionPruning
