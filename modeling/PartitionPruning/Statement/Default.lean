import PartitionPruning.Schema.Derivation
import PartitionPruning.Expr.Reading
import PartitionPruning.Range.Draft
import PartitionPruning.Statement.Basic

/-
  The defaults of partition keys that an `INSERT` leaves
  out.

  Defaults are stored values.  For Oracle tables a stored
  string holds the source text of the default, which may be
  a quoted string, a decimal numeral, a negative numeral in
  parentheses, or an expression.

  Key definitions include:
    * `DefaultText.isNumeral`
    * `DefaultText.numeral`
    * `Statement.textDefault`
    * `Statement.defaultValue`
    * `Schema.usableDefault?`
    * `Statement.keyDefault?`
    * `Statement.placeDefaults`
-/

namespace PartitionPruning

namespace DefaultText

------------------------------------------------------------
-- Numerals
------------------------------------------------------------

/- A digit as a byte. -/
def isDigitByte
    (b : UInt8) : Bool :=
  decide (0x30 ≤ b ∧ b ≤ 0x39)

/- A text without the sign that it may begin with. -/
def unsigned : List UInt8 → List UInt8
  | [] => []
  | b :: rest => if b = 0x2D ∨ b = 0x2B then rest else b :: rest

/-
  A decimal numeral: a sign or none, then digits with at
  most one point in, before or after them.
-/
def isNumeral
    (text : List UInt8) : Bool :=
  let digits := unsigned text
  let whole := digits.takeWhile (· != 0x2E)
  let fraction := (digits.dropWhile (· != 0x2E)).drop 1
  !(whole.isEmpty && fraction.isEmpty) &&
    whole.all isDigitByte && fraction.all isDigitByte

/- A numeral as an integer, or as text if it is not one. -/
def numeral
    (c : Collation)
    (text : List UInt8) : Value :=
  match (Utf8.decode? text).bind Numeral.int64? with
  | some v => .int v
  | none => .text text c

end DefaultText

------------------------------------------------------------
-- Stored Defaults
------------------------------------------------------------

namespace Statement

open DefaultText

/- The value of a default given by its source text. -/
def textDefault
    (s : Statement)
    (ev : Evaluator)
    (text : List UInt8) : Except Failure Value :=
  let c := s.config.collation
  match text with
  | [] => .ok (.text [] c)
  | first :: rest =>
      if first = 0x27 then .ok (.text rest.dropLast c)
      else if isNumeral (first :: rest) then
        .ok (numeral c (first :: rest))
      else if first = 0x2D ∧ 3 ≤ rest.length then
        .ok (numeral c (0x2D :: (rest.drop 1).dropLast))
      else
        match Utf8.decode (first :: rest) with
        | .error fault => .error (.defaultNotText fault)
        | .ok cs =>
            match Expr.parse s.config.maxDepth.toNat cs with
            | .error cause => .error (.expr cause)
            | .ok e => s.evaluate ev e

/- The value of a stored default. -/
def defaultValue
    (s : Statement)
    (ev : Evaluator)
    (stored : List UInt8) : Except Failure Value :=
  if stored.isEmpty then .ok .null
  else
    match Value.load stored with
    | .error cause => .error (.stored cause)
    | .ok v => do
        let v ←
          match s.schema.dialect, v with
          | .oracle, .text text _ => s.textDefault ev text
          | _, v => .ok v
        .ok (v.withCollation s.session.collation)

end Statement

------------------------------------------------------------
-- Defaults Of Keys
------------------------------------------------------------

namespace Schema

/-
  A stored default, and the source through which a generated
  key derives its own from it.
-/
structure UsableDefault where
  stored : List UInt8
  source? : Option PartKey

/- The first source of a key that the statement leaves out. -/
def openSource?
    (s : Schema)
    (i : Nat) : Option PartKey :=
  s.keys.find? fun k => feeds k i && !k.inStatement

/- A default that is not empty. -/
def storedDefault?
    (key : PartKey) : Option (List UInt8) :=
  if key.storedDefault.isEmpty then none
  else some key.storedDefault

/-
  The default to use for the key at an index, if there is
  one: its own, or for a generated key the default of the
  key that its source names.
-/
def usableDefault?
    (s : Schema)
    (i : Nat)
    (key : PartKey) : Option UsableDefault :=
  if key.inStatement then none
  else if key.isGenerated then do
    let source ← s.openSource? i
    let real ← source.realSource?
    let realKey ← s.keys[real.toNat]?
    let stored ← storedDefault? realKey
    some ⟨stored, some source⟩
  else (storedDefault? key).map (⟨·, none⟩)

end Schema

namespace Statement

/- The value of the default of a key, if it has one. -/
def keyDefault?
    (s : Statement)
    (ev : Evaluator)
    (i : Nat)
    (key : PartKey) : Except Failure (Option Value) :=
  match s.schema.usableDefault? i key with
  | none => .ok none
  | some usable => do
      let v ← s.defaultValue ev usable.stored
      match usable.source? with
      | none => .ok (some v)
      | some source => do
          let v ← source.derive s.schema.dialect v
          .ok (some v)

/-
  Pin every key that has a usable default to it, from index
  `i` on.
-/
def placeDefaults
    (s : Statement)
    (ev : Evaluator) :
    Nat → List PartKey → Drafts → Except Failure Drafts
  | _, [], d => .ok d
  | i, key :: rest, d => do
      let v? ← s.keyDefault? ev i key
      match v? with
      | none => s.placeDefaults ev (i + 1) rest d
      | some v =>
          let p :=
            d.place key.level .eq key.position.toNat
              key.position.toNat v
          match p.failure? with
          | some failure => .error failure
          | none => s.placeDefaults ev (i + 1) rest p.drafts

end Statement

end PartitionPruning
