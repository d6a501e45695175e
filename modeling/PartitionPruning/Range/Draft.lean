import PartitionPruning.Range.KeyRange

/-
  Key ranges in the making.

  While predicates are placed, a draft holds the borders of
  every column beside the range.  `Draft.normalise` then
  cuts the range back to the part that the partition lookup
  can use.

  Key definitions include:
    * `Draft`
    * `Draft.place`
    * `Draft.normalise`
    * `Drafts`
    * `Placement`
    * `Drafts.place`
    * `Drafts.toRanges`
-/

namespace PartitionPruning

------------------------------------------------------------
-- Drafts
------------------------------------------------------------

/- A range and the borders of its columns. -/
structure Draft where
  range : KeyRange
  borders : List Border
deriving DecidableEq, Repr, Inhabited

namespace Draft

/- Borders for `count` columns. -/
def bordersFor
    (count : Nat) : Except Failure (List Border) :=
  KeyRange.perColumn 2 count Border.exclusive

/- Compare the column at an index with a value. -/
def place
    (d : Draft)
    (op : Comparator)
    (index : Nat)
    (v : Value) : Except Failure Draft :=
  if index < d.range.columnCount ∧ index < d.borders.length then
    .ok
      ⟨⟨d.range.bounds.modify index (·.set op v),
          d.range.border⟩,
        d.borders.modify index (·.close op)⟩
  else .error (.noColumn index d.range.columnCount)

/-
  Keep exact columns up to and with the first that is not.
  Its border, or else the last one looked at, becomes the
  border of the range, and the columns after it are unused.
-/
def cut
    (border : Border) :
    List Bound → List Border → KeyRange
  | [], _ => ⟨[], border⟩
  | bounds, [] => ⟨bounds.map fun _ => Bound.unused, border⟩
  | b :: bounds, m :: borders =>
      if b.isExact then
        let tail := cut m bounds borders
        ⟨b :: tail.bounds, tail.border⟩
      else ⟨b :: bounds.map fun _ => Bound.unused, m⟩

/- What is cut back is marked as unused and not left out. -/
@[simp]
theorem length_cut_bounds
    (border : Border)
    (bounds : List Bound)
    (borders : List Border) :
    (cut border bounds borders).bounds.length =
      bounds.length := by
  fun_induction cut border bounds borders with
  | case1 => rfl
  | case2 => simp
  | case3 _ b bounds m borders _ _ ih => simpa using ih
  | case4 => simp

/- The range cut back to what the partition lookup can use. -/
def normalise
    (d : Draft) : KeyRange :=
  cut d.range.border d.range.bounds d.borders

/- Cutting back keeps the number of columns. -/
@[simp]
theorem columnCount_normalise
    (d : Draft) :
    d.normalise.columnCount = d.range.columnCount :=
  length_cut_bounds d.range.border d.range.bounds d.borders

end Draft

------------------------------------------------------------
-- Both Levels
------------------------------------------------------------

/- The drafts of partition level one and two. -/
structure Drafts where
  one : Draft
  two : Draft
deriving DecidableEq, Repr, Inhabited

/-
  What placing a predicate leaves: the drafts, in how many
  levels it was placed, and the failure that stopped it.
-/
structure Placement where
  drafts : Drafts
  placed : Nat
  failure? : Option Failure

namespace Drafts

/-
  Compare a column with a value in every level that it
  belongs to, level one first.  What is placed in level one
  stays when level two fails.
-/
def place
    (d : Drafts)
    (level : KeyLevel)
    (op : Comparator)
    (first second : Nat)
    (v : Value) : Placement :=
  let one :=
    if level.coversOne then d.one.place op first v
    else .ok d.one
  match one with
  | .error failure => ⟨d, 0, some failure⟩
  | .ok one =>
      let d := { d with one := one }
      let placed := if level.coversOne then 1 else 0
      if level.coversTwo then
        match d.two.place op second v with
        | .error failure => ⟨d, placed, some failure⟩
        | .ok two =>
            ⟨{ d with two := two }, placed + 1, none⟩
      else ⟨d, placed, none⟩

/- The key ranges of both levels, cut back. -/
def toRanges
    (d : Drafts) : Ranges :=
  ⟨d.one.normalise, d.two.normalise⟩

end Drafts

end PartitionPruning
