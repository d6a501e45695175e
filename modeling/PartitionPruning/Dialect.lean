/-
  The two SQL dialects and how each counts positions in text.

  Key definitions include:
    * `Dialect`
    * `Dialect.position`
-/

namespace PartitionPruning

/- The dialect that a table is used in. -/
inductive Dialect where
  | mysql
  | oracle
deriving DecidableEq, Repr, Inhabited

namespace Dialect

/-
  The position, counted from one, that a start names in a
  text of `size` bytes.  A negative start counts from the
  end.  Oracle reads position zero as the first.
-/
def position
    (d : Dialect)
    (size : Nat)
    (start : Int) : Int :=
  let p := if start < 0 then start + size + 1 else start
  if p = 0 ∧ d = oracle then 1 else p

end Dialect

end PartitionPruning
