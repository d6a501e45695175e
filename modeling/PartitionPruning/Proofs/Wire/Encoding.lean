import PartitionPruning.Wire.Packet

/-
  Execute packets as a client writes them.

  Field types fall into a few forms, each with a layout of
  its own.  An argument is a type and a content that suits
  it, or no content where the parameter is null.

  Key definitions include:
    * `FieldType.Form`
    * `Content`
    * `Argument`
    * `ExecutePacket`
-/

namespace PartitionPruning

------------------------------------------------------------
-- Forms Of Field Types
------------------------------------------------------------

/- How the values of a field type are laid out. -/
inductive FieldType.Form where
  | nothing
  | integer (width : Nat)
  | floating (width : Nat)
  | temporal
  | text
deriving DecidableEq, Repr

/- The form of a field type. -/
def FieldType.form : FieldType → Form
  | .null => .nothing
  | .tiny => .integer 1
  | .short => .integer 2
  | .year => .integer 2
  | .long => .integer 4
  | .int24 => .integer 4
  | .longLong => .integer 8
  | .float => .floating 4
  | .double => .floating 8
  | .date => .temporal
  | .time => .temporal
  | .dateTime => .temporal
  | .timestamp => .temporal
  | _ => .text

------------------------------------------------------------
-- Contents
------------------------------------------------------------

/-
  What the value of a parameter holds.  A float is given by
  its bits, and a point in time by the bytes of its parts.
-/
inductive Content where
  | nothing
  | integer (i : Int)
  | floating (bits : Nat)
  | temporal (parts : List UInt8)
  | text (bytes : List UInt8)
deriving DecidableEq, Repr

open LittleEndian (span)

/- A length in the fewest bytes that can say it. -/
def Wire.writeLength
    (n : Nat) : List UInt8 :=
  if n < 251 then LittleEndian.encode 1 n
  else if n < span 2 then 0xFC :: LittleEndian.encode 2 n
  else if n < span 3 then 0xFD :: LittleEndian.encode 3 n
  else 0xFE :: LittleEndian.encode 8 n

namespace Content

/-
  An integer of so many bytes.  Half of the signed ones are
  negative.
-/
def IntegerFits
    (width : Nat)
    (unsigned : Bool)
    (i : Int) : Prop :=
  if unsigned then 0 ≤ i ∧ i < span width
  else -span width ≤ 2 * i ∧ 2 * i < span width

instance
    (width : Nat)
    (unsigned : Bool)
    (i : Int) :
    Decidable (IntegerFits width unsigned i) := by
  unfold IntegerFits
  infer_instance

/- The content suits a form, signed or not. -/
def Fits
    (unsigned : Bool) :
    FieldType.Form → Content → Prop
  | .nothing, .nothing => True
  | .integer width, .integer i => IntegerFits width unsigned i
  | .floating width, .floating bits => bits < span width
  | .temporal, .temporal parts => parts.length < 256
  | .text, .text _ => True
  | _, _ => False

instance
    (unsigned : Bool)
    (form : FieldType.Form)
    (c : Content) :
    Decidable (c.Fits unsigned form) := by
  unfold Fits
  split <;> infer_instance

/- The bytes of a content in a form. -/
def encode :
    FieldType.Form → Content → List UInt8
  | .integer width, .integer i =>
      LittleEndian.encode width (i % span width).toNat
  | .floating width, .floating bits =>
      LittleEndian.encode width bits
  | .temporal, .temporal parts =>
      LittleEndian.encode 1 parts.length ++ parts
  | .text, .text bytes =>
      Wire.writeLength bytes.length ++ bytes
  | _, _ => []

/-
  The value that a parameter with the content has.  Floats
  and points in time are not read, nor are integers beyond
  64 signed bits.
-/
def value? : Content → Option Value
  | nothing => some .null
  | integer i => (Integer.narrow? i).map Value.int
  | text bytes => some (.text bytes default)
  | floating _ => none
  | temporal _ => none

end Content

------------------------------------------------------------
-- Arguments
------------------------------------------------------------

/- The argument for a parameter, without content if null. -/
structure Argument where
  type : ParamType
  content? : Option Content
  fits :
    ∀ c ∈ content?,
      c.Fits type.unsigned type.fieldType.form

namespace Argument

/- The argument is null. -/
def isNull
    (a : Argument) : Bool :=
  a.content?.isNone

/- The bytes of the argument among the values. -/
def encode
    (a : Argument) : List UInt8 :=
  match a.content? with
  | none => []
  | some c => c.encode a.type.fieldType.form

/- The value of the argument, if it can be read. -/
def value?
    (a : Argument) : Option Value :=
  match a.content? with
  | none => some .null
  | some c => c.value?

end Argument

/- The two bytes of a parameter type. -/
def ParamType.encode
    (t : ParamType) : List UInt8 :=
  [t.fieldType.code, if t.unsigned then 0x80 else 0]

------------------------------------------------------------
-- Packets
------------------------------------------------------------

namespace Block

/- The number with given bits, lowest first. -/
def ofBits : List Bool → Nat
  | [] => 0
  | b :: bits => b.toNat + 2 * ofBits bits

/- The bitmap that marks parameters, eight in a byte. -/
def bitmap
    (marks : List Bool) : List UInt8 :=
  (List.range (bitmapSize marks.length)).map fun j =>
    UInt8.ofNat (ofBits ((marks.drop (8 * j)).take 8))

end Block

/-
  Where the types of the arguments stand: in the packet, or
  among the types that are declared for the statement.  Only
  a flag of one says that they are in the packet.
-/
inductive TypeBinding where
  | sent
  | declared (flag : UInt8) (flag_ne : flag ≠ 1)

/- An execute packet, which any bytes may follow. -/
structure ExecutePacket where
  header : List UInt8
  binding : TypeBinding
  args : List Argument
  trailing : List UInt8
  length_header : header.length = Packet.headerSize

namespace ExecutePacket

/- The types of the arguments. -/
def types
    (p : ExecutePacket) : List ParamType :=
  p.args.map Argument.type

/- The flag, and the types where they are sent. -/
def typeBytes
    (p : ExecutePacket) : List UInt8 :=
  match p.binding with
  | .sent => 1 :: p.types.flatMap ParamType.encode
  | .declared flag _ => [flag]

/- The values of the arguments that are not null. -/
def values
    (p : ExecutePacket) : List UInt8 :=
  p.args.flatMap Argument.encode

/- The bytes of the packet. -/
def encode
    (p : ExecutePacket) : List UInt8 :=
  p.header ++
    (Block.bitmap (p.args.map Argument.isNull) ++
      (p.typeBytes ++ (p.values ++ p.trailing)))

/- The values up to that of an argument. -/
def valuesTo
    (p : ExecutePacket)
    (i : Nat) : List UInt8 :=
  (p.args.take (i + 1)).flatMap Argument.encode

/- The bytes of the packet up to the value of an argument. -/
def upTo
    (p : ExecutePacket)
    (i : Nat) : List UInt8 :=
  p.header ++
    (Block.bitmap (p.args.map Argument.isNull) ++
      (p.typeBytes ++ p.valuesTo i))

/-
  The types of the arguments are sent, or are the first of
  those that are declared.
-/
def TypesKnown
    (p : ExecutePacket)
    (declared : List ParamType) : Prop :=
  match p.binding with
  | .sent => True
  | .declared _ _ => p.types <+: declared

end ExecutePacket

end PartitionPruning
