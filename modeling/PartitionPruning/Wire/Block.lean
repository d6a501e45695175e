import PartitionPruning.Wire.Value

/-
  The parameter block of an execute packet: a bitmap that
  marks the parameters that are null, a flag byte, the types
  of all parameters if the flag is one, and then the values
  of the parameters that are not null.

  Key definitions include:
    * `Block.isNull`
    * `Block.types`
    * `Block.select`
    * `Block.param`
-/

namespace PartitionPruning

namespace Block

open Wire

/- Sizes above the greatest 64-bit number count as it. -/
def greatestSize : Nat :=
  UInt64.size - 1

/- Bytes of a bitmap with a bit for each parameter. -/
def bitmapSize
    (count : Nat) : Nat :=
  (count + 7) / 8

/- The bitmap marks a parameter as null. -/
def isNull
    (bitmap : List UInt8)
    (i : Nat) : Bool :=
  (bitmap.getD (i / 8) 0).toNat.testBit (i % 8)

/-
  Parameter types of two bytes each: the number of the field
  type, and a byte whose highest bit says unsigned.
-/
def typesOfBytes :
    List UInt8 → Except WireError (List ParamType)
  | code :: flags :: rest =>
      match FieldType.ofCode? code with
      | none => .error (.unknownFieldType code)
      | some t => do
          let ts ← typesOfBytes rest
          .ok (⟨t, decide (0x80 ≤ flags)⟩ :: ts)
  | _ => .ok []

/-
  The types of all parameters, from the packet if its flag
  is one and else as they were declared, and the bytes after
  them.
-/
def types
    (count : Nat)
    (declared : List ParamType)
    (flag : List UInt8)
    (bs : List UInt8) :
    Except WireError (List ParamType × List UInt8) :=
  if flag = [1] then do
    let (bytes, rest) ←
      take .parameterTypes (Nat.min (count * 2) greatestSize) bs
    let ts ← typesOfBytes bytes
    .ok (ts, rest)
  else if count ≤ declared.length then
    .ok (declared.take count, bs)
  else .error .missingTypes

/-
  The value of parameter `index`, where `ts` are the types
  from parameter `i` on and `bs` their values.
-/
def select
    (bitmap : List UInt8)
    (count index : Nat) :
    Nat → List ParamType → List UInt8 →
      Except WireError Value
  | _, [], _ => .error (.indexOutOfRange index count)
  | i, t :: ts, bs =>
      if isNull bitmap i then
        if i = index then .ok .null
        else select bitmap count index (i + 1) ts bs
      else if i = index then do
        let (v, _) ← t.decode bs
        .ok v
      else do
        let rest ← t.skip bs
        select bitmap count index (i + 1) ts rest

/- The value of parameter `index` of a block. -/
def param
    (count : Nat)
    (declared : List ParamType)
    (index : Nat)
    (bs : List UInt8) : Except WireError Value := do
  let size := bitmapSize count
  let (front, rest) ← take .nullBitmap (size + 1) bs
  let (ts, values) ←
    types count declared (front.drop size) rest
  select (front.take size) count index 0 ts values

end Block

end PartitionPruning
