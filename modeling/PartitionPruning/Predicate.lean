/-
  Predicates that a statement places on partition columns.

  Key definitions include:
    * `Operand`
    * `Operand.depth`
    * `Comparator`
    * `KeyLevel`
    * `Predicate`
-/

namespace PartitionPruning

------------------------------------------------------------
-- Operands
------------------------------------------------------------

/-
  The side of a predicate that is compared with the column.
  A placeholder stands for the bound parameter at its index.
-/
inductive Operand where
  | int (v : Int64)
  | text (bytes : List UInt8)
  | placeholder (index : UInt64)
  | call (name : String) (args : List Operand)
  | column (name : String)
deriving Repr, Inhabited

namespace Operand

mutual

/- Calls on the deepest path of an operand. -/
def depth : Operand → Nat
  | call _ args => 1 + depthOfArgs args
  | _ => 0

/- The greatest depth among arguments. -/
def depthOfArgs : List Operand → Nat
  | [] => 0
  | o :: os => Nat.max o.depth (depthOfArgs os)

end

mutual

/- Operands are equal or not. -/
def decEq :
    (a b : Operand) → Decidable (a = b)
  | int a, int b =>
      decidable_of_iff (a = b) (by simp)
  | text a, text b =>
      decidable_of_iff (a = b) (by simp)
  | placeholder a, placeholder b =>
      decidable_of_iff (a = b) (by simp)
  | column a, column b =>
      decidable_of_iff (a = b) (by simp)
  | call a as, call b bs =>
      have := decEqArgs as bs
      decidable_of_iff (a = b ∧ as = bs) (by simp)
  | int _, text _ => isFalse (by simp)
  | int _, placeholder _ => isFalse (by simp)
  | int _, column _ => isFalse (by simp)
  | int _, call _ _ => isFalse (by simp)
  | text _, int _ => isFalse (by simp)
  | text _, placeholder _ => isFalse (by simp)
  | text _, column _ => isFalse (by simp)
  | text _, call _ _ => isFalse (by simp)
  | placeholder _, int _ => isFalse (by simp)
  | placeholder _, text _ => isFalse (by simp)
  | placeholder _, column _ => isFalse (by simp)
  | placeholder _, call _ _ => isFalse (by simp)
  | column _, int _ => isFalse (by simp)
  | column _, text _ => isFalse (by simp)
  | column _, placeholder _ => isFalse (by simp)
  | column _, call _ _ => isFalse (by simp)
  | call _ _, int _ => isFalse (by simp)
  | call _ _, text _ => isFalse (by simp)
  | call _ _, placeholder _ => isFalse (by simp)
  | call _ _, column _ => isFalse (by simp)

/- Arguments are equal or not. -/
def decEqArgs :
    (as bs : List Operand) → Decidable (as = bs)
  | [], [] => isTrue rfl
  | [], _ :: _ => isFalse (by simp)
  | _ :: _, [] => isFalse (by simp)
  | a :: as, b :: bs =>
      have := decEq a b
      have := decEqArgs as bs
      decidable_of_iff (a = b ∧ as = bs) (by simp)

end

instance : DecidableEq Operand :=
  decEq

end Operand

------------------------------------------------------------
-- Comparators
------------------------------------------------------------

/-
  How a column is compared with the operand.  `other` is
  any comparator that does not bound a contiguous range.
-/
inductive Comparator where
  | eq
  | ge
  | gt
  | le
  | lt
  | other
deriving DecidableEq, Repr, Inhabited

namespace Comparator

/- A comparator as it is written. -/
def name : Comparator → String
  | eq => "="
  | ge => ">="
  | gt => ">"
  | le => "<="
  | lt => "<"
  | other => "other"

/- The operand bounds the column from below. -/
def boundsBelow : Comparator → Bool
  | eq | ge | gt => true
  | le | lt | other => false

/- The operand bounds the column from above. -/
def boundsAbove : Comparator → Bool
  | eq | le | lt => true
  | ge | gt | other => false

/- The operand itself belongs to the range at its start. -/
def closesBelow : Comparator → Bool
  | eq | ge => true
  | gt | le | lt | other => false

/- The operand itself belongs to the range at its end. -/
def closesAbove : Comparator → Bool
  | eq | le => true
  | ge | gt | lt | other => false

end Comparator

------------------------------------------------------------
-- Predicates
------------------------------------------------------------

/- The partition levels that a column belongs to. -/
inductive KeyLevel where
  | zero
  | one
  | two
  | both
deriving DecidableEq, Repr, Inhabited

namespace KeyLevel

/- The column belongs to level one. -/
def coversOne : KeyLevel → Bool
  | one | both => true
  | zero | two => false

/- The column belongs to level two. -/
def coversTwo : KeyLevel → Bool
  | two | both => true
  | zero | one => false

end KeyLevel

/-
  A comparison of a partition column.  `key` is the column's
  place among the partition keys, and `first` and `second`
  are its places among the columns of level one and two.
  A predicate that comes from a row-id hint says so.
-/
structure Predicate where
  key : UInt64
  first : UInt64
  second : UInt64
  level : KeyLevel
  op : Comparator
  operand : Operand
  fromRowId : Bool
deriving DecidableEq, Repr, Inhabited

end PartitionPruning
