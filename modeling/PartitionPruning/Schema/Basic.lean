import PartitionPruning.Dialect
import PartitionPruning.Failure
import PartitionPruning.Predicate

/-
  How a table is partitioned.

  A generated key takes its value from another key, its
  source, through a generating function.  The source names
  the key it feeds and carries the function.

  Key definitions include:
    * `Generator`
    * `PartKey`
    * `Schema`
    * `Schema.validate`
-/

namespace PartitionPruning

------------------------------------------------------------
-- Generators
------------------------------------------------------------

/- A literal argument of a generating function. -/
inductive GeneratorParam where
  | column (name : String)
  | int (v : Int64)
  | text (s : String)
deriving DecidableEq, Repr, Inhabited

/- A function that derives a key from its source. -/
structure Generator where
  func : Func
  params : List GeneratorParam
deriving DecidableEq, Repr, Inhabited

namespace Generator

/-
  The substring of a column.  A missing start is written as
  an empty string, a missing length not at all.
-/
def substring
    (column : String)
    (start? length? : Option Int64) : Generator :=
  let start :=
    match start? with
    | some v => .int v
    | none => .text ""
  let length :=
    match length? with
    | some v => [.int v]
    | none => []
  ⟨.substr, .column column :: start :: length⟩

/- The integer at a place among the parameters. -/
def int?
    (g : Generator)
    (i : Nat) : Option Int64 :=
  match g.params[i]? with
  | some (.int v) => some v
  | _ => none

end Generator

------------------------------------------------------------
-- Keys
------------------------------------------------------------

/-
  A partition key.  `position` is its place among the
  columns of its level.  On a source, `target?` is the key
  that it feeds, `realSource?` the key whose default feeds
  the derivation and `generator?` the function.
  `storedDefault` holds a stored value, or nothing, and
  `inStatement` says that the statement gives a value.
-/
structure PartKey where
  name : String
  level : KeyLevel
  position : UInt64
  isGenerated : Bool
  target? : Option UInt64
  realSource? : Option UInt64
  generator? : Option Generator
  storedDefault : List UInt8
  inStatement : Bool
deriving DecidableEq, Repr, Inhabited

/- How many levels a table is partitioned on. -/
inductive TableLevel where
  | zero
  | one
  | two
deriving DecidableEq, Repr, Inhabited

------------------------------------------------------------
-- Schemas
------------------------------------------------------------

/- The partitioning of a table. -/
structure Schema where
  level : TableLevel
  columns : List String
  subColumns : List String
  keys : List PartKey
  dialect : Dialect
deriving DecidableEq, Repr, Inhabited

namespace Schema

/- Some key takes its value from another. -/
def hasGeneratedKey
    (s : Schema) : Bool :=
  s.keys.any PartKey.isGenerated

/- The key at an index feeds the generated key `target`. -/
def feeds
    (key : PartKey)
    (target : Nat) : Bool :=
  decide (key.target?.map UInt64.toNat = some target)

/- There is a generated key at an index. -/
def hasGeneratedKeyAt
    (s : Schema)
    (i : Nat) : Bool :=
  match s.keys[i]? with
  | some key => key.isGenerated
  | none => false

/- What is wrong with the link from a source, if anything. -/
def linkFault?
    (s : Schema)
    (i : Nat)
    (key : PartKey) : Option Failure :=
  match key.target? with
  | none => none
  | some target =>
      if s.hasGeneratedKeyAt target.toNat = false then
        some (.targetNotGenerated i key.name target.toNat)
      else if key.generator?.isNone then
        some (.targetWithoutGenerator i key.name target.toNat)
      else none

/- A generated key that no source feeds. -/
def orphanFault?
    (s : Schema)
    (i : Nat)
    (key : PartKey) : Option Failure :=
  if key.isGenerated ∧
      s.keys.any (fun k => feeds k i) = false then
    some (.generatedWithoutSource i key.name)
  else none

/- The first fault of keys, from index `i` on. -/
def firstFault?
    (fault? : Nat → PartKey → Option Failure) :
    Nat → List PartKey → Option Failure
  | _, [] => none
  | i, key :: rest =>
      (fault? i key).or (firstFault? fault? (i + 1) rest)

/-
  Every source links to a generated key and has a generating
  function, and every generated key has a source.  Sources
  are looked at before generated keys.
-/
def validate
    (s : Schema) : Except Failure Unit :=
  match
    (firstFault? s.linkFault? 0 s.keys).or
      (firstFault? s.orphanFault? 0 s.keys) with
  | some failure => .error failure
  | none => .ok ()

end Schema

end PartitionPruning
