import PartitionPruning.Failure
import PartitionPruning.Predicate
import PartitionPruning.Value

/-
  Ranges of partition keys.

  A range has a lower and an upper value for every column of
  its level, and a border that says whether its two ends
  belong to it.

  Key definitions include:
    * `Border`
    * `Border.close`
    * `Bound`
    * `Bound.set`
    * `KeyRange`
    * `KeyRange.ofColumns`
    * `KeyRange.isSinglePoint`
    * `Ranges`
-/

namespace PartitionPruning

------------------------------------------------------------
-- Bounds Of A Column
------------------------------------------------------------

/- Whether the two ends of a range belong to it. -/
structure Border where
  lower : Bool
  upper : Bool
deriving DecidableEq, Repr

namespace Border

/- Neither end belongs to the range. -/
def exclusive : Border :=
  ⟨false, false⟩

instance : Inhabited Border :=
  ⟨exclusive⟩

/- The border after a comparison, which can only close it. -/
def close
    (b : Border)
    (op : Comparator) : Border :=
  ⟨b.lower || op.closesBelow, b.upper || op.closesAbove⟩

/- A comparison that does not bound closes nothing. -/
@[simp]
theorem close_other
    (b : Border) :
    b.close .other = b := by
  simp [close, Comparator.closesBelow, Comparator.closesAbove]

end Border

/- The lower and the upper value of a column. -/
structure Bound where
  lower : Value
  upper : Value
deriving DecidableEq, Repr

namespace Bound

/- The bound of a column that nothing has set. -/
def unset : Bound :=
  ⟨.null, .null⟩

instance : Inhabited Bound :=
  ⟨unset⟩

/- The bound of a column that the lookup does not look at. -/
def unused : Bound :=
  ⟨.greatest, .least⟩

/- The bound after a comparison with a value. -/
def set
    (b : Bound)
    (op : Comparator)
    (v : Value) : Bound :=
  ⟨if op.boundsBelow then v else b.lower,
    if op.boundsAbove then v else b.upper⟩

/- A comparison that does not bound sets nothing. -/
@[simp]
theorem set_other
    (b : Bound)
    (v : Value) :
    b.set .other v = b := by
  simp [set, Comparator.boundsBelow, Comparator.boundsAbove]

/- Both values are known to be the same. -/
def isExact
    (b : Bound) : Bool :=
  decide (b.lower.sameBound? b.upper = some true)

end Bound

------------------------------------------------------------
-- Ranges
------------------------------------------------------------

/- Bytes that can be asked for at once. -/
def KeyRange.greatestSize : Nat :=
  UInt64.size / 2 - 1

/-
  An item for each of `count` columns, if so many items of
  `itemSize` bytes can be asked for.
-/
def KeyRange.perColumn
    {α : Type}
    (itemSize count : Nat)
    (a : α) : Except Failure (List α) :=
  if count * itemSize ≤ greatestSize then
    .ok (List.replicate count a)
  else .error .tooManyColumns

/- The key range of one partition level. -/
structure KeyRange where
  bounds : List Bound
  border : Border
deriving DecidableEq, Repr, Inhabited

namespace KeyRange

/- The range of `count` columns that nothing has set. -/
def ofColumns
    (count : Nat) : Except Failure KeyRange := do
  let bounds ← perColumn 32 count Bound.unset
  .ok ⟨bounds, Border.exclusive⟩

/- How many columns the range has. -/
def columnCount
    (r : KeyRange) : Nat :=
  r.bounds.length

/- The range has no columns. -/
def isEmpty
    (r : KeyRange) : Bool :=
  r.bounds.isEmpty

/- The values at the start of the range. -/
def lowerKey
    (r : KeyRange) : List Value :=
  r.bounds.map Bound.lower

/- The values at the end of the range. -/
def upperKey
    (r : KeyRange) : List Value :=
  r.bounds.map Bound.upper

/- The range holds one key and no other. -/
def isSinglePoint
    (r : KeyRange) : Bool :=
  !r.isEmpty && r.border.lower && r.border.upper &&
    r.bounds.all Bound.isExact

/- The values of a key, separated by commas. -/
def displayKey
    (vs : List Value) : String :=
  ",".intercalate (vs.map Value.display)

/- A range with a bracket at each end that belongs to it. -/
def display
    (r : KeyRange) : String :=
  (if r.border.lower then "[" else "(") ++
    displayKey r.lowerKey ++ " ; " ++ displayKey r.upperKey ++
    (if r.border.upper then "]" else ")")

end KeyRange

------------------------------------------------------------
-- Both Levels
------------------------------------------------------------

/- The key ranges of partition level one and two. -/
structure Ranges where
  one : KeyRange
  two : KeyRange
deriving DecidableEq, Repr, Inhabited

namespace Ranges

/- Both ranges for reading by people. -/
def display
    (r : Ranges) : String :=
  s!" ranges[0]:{r.one.display}, ranges[1]:{r.two.display},"

end Ranges

end PartitionPruning
