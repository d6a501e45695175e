import PartitionPruning.Bytes.LittleEndian
import PartitionPruning.Text.Utf8

/-
  Binary codecs, built up from numbers.

  Numbers have a fixed width and their lowest byte first.
  A truth value and the presence of an optional item take
  one byte, the length of a string or list takes eight, and
  the alternative of a choice takes four.  A reader answers
  with the bytes that it leaves.

  Key definitions include:
    * `CaptureFault`
    * `Reader`
    * `Codec`
    * `Codec.pair`
    * `Codec.via`
    * `Codec.option`
    * `Codec.list`
    * `Codec.string`
    * `Codec.byteString`
    * `Codec.enumeration`
    * `Reader.choice`
-/

namespace PartitionPruning

------------------------------------------------------------
-- Faults
------------------------------------------------------------

/- Why bytes are not what a reader expects. -/
inductive CaptureFault where
  | endOfInput
  | cutContent
  | badBool (b : UInt8)
  | badOption (b : UInt8)
  | badChoice (n count : Nat)
  | badText (fault : Utf8.Fault)
deriving DecidableEq, Repr

/- The wording of a fault. -/
def CaptureFault.message : CaptureFault → String
  | endOfInput => "io error: unexpected end of file"
  | cutContent => "io error: "
  | badBool b =>
      "invalid u8 while decoding bool, expected 0 or 1, " ++
        s!"found {b.toNat}"
  | badOption b =>
      s!"tag for enum is not valid, found {b.toNat}"
  | badChoice n count =>
      s!"invalid value: integer `{n}`, expected variant index " ++
        s!"0 <= i < {count}"
  | badText fault => s!"string is not valid utf8: {fault.message}"

------------------------------------------------------------
-- Readers
------------------------------------------------------------

/- Reading a value off the front of bytes. -/
abbrev Reader
    (α : Type) :=
  List UInt8 → Except CaptureFault (α × List UInt8)

namespace Reader

/- Take a value without reading anything. -/
def give
    {α : Type}
    (a : α) : Reader α :=
  fun bs => .ok (a, bs)

/- Read a value and turn it into another. -/
def map
    {α β : Type}
    (f : α → β)
    (r : Reader α) : Reader β :=
  fun bs => do
    let (a, rest) ← r bs
    .ok (f a, rest)

/- The first `n` bytes, or a fault if there are fewer. -/
def take
    (fault : CaptureFault)
    (n : Nat) : Reader (List UInt8) :=
  fun bs =>
    match LittleEndian.split? n bs with
    | some pieces => .ok pieces
    | none => .error fault

/- A number of `width` bytes. -/
def number
    (width : Nat) : Reader Nat :=
  map LittleEndian.value (take .endOfInput width)

/- A given number of items. -/
def many
    {α : Type}
    (r : Reader α) : Nat → Reader (List α)
  | 0 => give []
  | n + 1 => fun bs => do
      let (a, rest) ← r bs
      let (as, rest) ← many r n rest
      .ok (a :: as, rest)

/- The number of an alternative, and what it calls for. -/
def choice
    {α : Type}
    (alternatives : List (Reader α)) : Reader α :=
  fun bs => do
    let (n, rest) ← number 4 bs
    match alternatives[n]? with
    | some r => r rest
    | none => .error (.badChoice n alternatives.length)

end Reader

------------------------------------------------------------
-- Codecs
------------------------------------------------------------

/- A way to write values as bytes and to read them back. -/
structure Codec
    (α : Type) where
  write : α → List UInt8
  read : Reader α

namespace Codec

/- The number of an alternative. -/
def tag
    (n : Nat) : List UInt8 :=
  LittleEndian.encode 4 n

/- One value after another. -/
def pair
    {α β : Type}
    (first : Codec α)
    (second : Codec β) : Codec (α × β) where
  write p := first.write p.1 ++ second.write p.2
  read bs := do
    let (a, rest) ← first.read bs
    let (b, rest) ← second.read rest
    .ok ((a, b), rest)

/- Values that are written as values of another type. -/
def via
    {α β : Type}
    (c : Codec α)
    (forth : β → α)
    (back : α → β) : Codec β where
  write b := c.write (forth b)
  read := c.read.map back

/- A byte by itself. -/
def byte : Codec UInt8 where
  write b := [b]
  read
    | [] => .error .endOfInput
    | b :: rest => .ok (b, rest)

/- A number of two bytes. -/
def word16 : Codec UInt16 where
  write n := LittleEndian.encode 2 n.toNat
  read := (Reader.number 2).map UInt16.ofNat

/- A number of eight bytes. -/
def word64 : Codec UInt64 where
  write n := LittleEndian.encode 8 n.toNat
  read := (Reader.number 8).map UInt64.ofNat

/- An integer in two's complement. -/
def int64 : Codec Int64 :=
  word64.via Int64.toUInt64 UInt64.toInt64

/- A truth value, as zero or one. -/
def bool : Codec Bool where
  write b := [if b then 1 else 0]
  read bs := do
    let (b, rest) ← byte.read bs
    if b = 0 then .ok (false, rest)
    else if b = 1 then .ok (true, rest)
    else .error (.badBool b)

/- A zero for nothing, or a one and an item. -/
def option
    {α : Type}
    (item : Codec α) : Codec (Option α) where
  write
    | none => [0]
    | some a => 1 :: item.write a
  read bs := do
    let (b, rest) ← byte.read bs
    if b = 0 then .ok (none, rest)
    else if b = 1 then item.read.map some rest
    else .error (.badOption b)

/- The number of items, and the items. -/
def list
    {α : Type}
    (item : Codec α) : Codec (List α) where
  write as :=
    LittleEndian.encode 8 as.length ++ as.flatMap item.write
  read bs := do
    let (n, rest) ← Reader.number 8 bs
    item.read.many n rest

/- A list of bytes that is read as a whole. -/
def byteString : Codec (List UInt8) where
  write bs := LittleEndian.encode 8 bs.length ++ bs
  read bs := do
    let (n, rest) ← Reader.number 8 bs
    Reader.take .cutContent n rest

/- A string as the bytes of its text. -/
def string : Codec String where
  write s := byteString.write (Utf8.bytes s)
  read bs := do
    let (bytes, rest) ← byteString.read bs
    match Utf8.decode bytes with
    | .ok cs => .ok (String.ofList cs, rest)
    | .error fault => .error (.badText fault)

/- One of some values, by its place among them. -/
def enumeration
    {α : Type}
    [DecidableEq α]
    (values : List α) : Codec α where
  write a := tag (values.idxOf a)
  read := Reader.choice (values.map Reader.give)

end Codec

end PartitionPruning
