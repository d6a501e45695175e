/-
  Column types as the binary protocol numbers them.

  Key definitions include:
    * `FieldType`
    * `FieldType.all`
    * `FieldType.code`
    * `FieldType.ofCode?`
    * `FieldType.isLengthEncoded`
    * `ParamType`
-/

namespace PartitionPruning

/- The type of a column or parameter. -/
inductive FieldType where
  | decimal
  | tiny
  | short
  | long
  | float
  | double
  | null
  | timestamp
  | longLong
  | int24
  | date
  | time
  | dateTime
  | year
  | varchar
  | json
  | newDecimal
  | enum
  | set
  | tinyBlob
  | mediumBlob
  | longBlob
  | blob
  | varString
  | string
deriving DecidableEq, Repr, Inhabited

namespace FieldType

/- Every field type, in the order of their numbers. -/
def all : List FieldType :=
  [decimal, tiny, short, long, float, double, null,
    timestamp, longLong, int24, date, time, dateTime, year,
    varchar, json, newDecimal, enum, set, tinyBlob,
    mediumBlob, longBlob, blob, varString, string]

/- The number of a field type on the wire. -/
def code : FieldType → UInt8
  | decimal => 0x00
  | tiny => 0x01
  | short => 0x02
  | long => 0x03
  | float => 0x04
  | double => 0x05
  | null => 0x06
  | timestamp => 0x07
  | longLong => 0x08
  | int24 => 0x09
  | date => 0x0A
  | time => 0x0B
  | dateTime => 0x0C
  | year => 0x0D
  | varchar => 0x0F
  | json => 0xF5
  | newDecimal => 0xF6
  | enum => 0xF7
  | set => 0xF8
  | tinyBlob => 0xF9
  | mediumBlob => 0xFA
  | longBlob => 0xFB
  | blob => 0xFC
  | varString => 0xFD
  | string => 0xFE

/- The name of a field type in messages. -/
def name : FieldType → String
  | decimal => "Decimal"
  | tiny => "Tiny"
  | short => "Short"
  | long => "Long"
  | float => "Float"
  | double => "Double"
  | null => "Null"
  | timestamp => "Timestamp"
  | longLong => "LongLong"
  | int24 => "Int24"
  | date => "Date"
  | time => "Time"
  | dateTime => "DateTime"
  | year => "Year"
  | varchar => "Varchar"
  | json => "Json"
  | newDecimal => "NewDecimal"
  | enum => "Enum"
  | set => "Set"
  | tinyBlob => "TinyBlob"
  | mediumBlob => "MediumBlob"
  | longBlob => "LongBlob"
  | blob => "Blob"
  | varString => "VarString"
  | string => "String"

/- The field type with a number. -/
def ofCode?
    (n : UInt8) : Option FieldType :=
  all.find? fun t => decide (t.code = n)

/- The list of field types leaves none out. -/
theorem mem_all
    (t : FieldType) :
    t ∈ all := by
  cases t <;> decide

/- The field type's number is its own. -/
theorem ofCode?_code
    (t : FieldType) :
    ofCode? t.code = some t := by
  cases t <;> decide

/-
  Values of the type are strings that carry their length.
-/
def isLengthEncoded
    (t : FieldType) : Bool :=
  decide (t ∈
    [decimal, newDecimal, varchar, varString, string, json,
      enum, set, tinyBlob, mediumBlob, longBlob, blob])

end FieldType

/- The type of a statement parameter. -/
structure ParamType where
  fieldType : FieldType
  unsigned : Bool
deriving DecidableEq, Repr, Inhabited

end PartitionPruning
