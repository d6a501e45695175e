import PartitionPruning.Text.CharClass

/-
  The scalar functions that expressions may name.

  Key definitions include:
    * `Func`
    * `Func.all`
    * `Func.name`
    * `Func.ofName?`
-/

namespace PartitionPruning

/- A function known by name. -/
inductive Func where
  | hash
  | substr
  | concat
  | toInt
  | div
  | add
  | sub
  | mul
  | sum
  | count
  | max
  | min
  | avg
  | group
  | order
  | testLoad
  | split
  | toDate
  | toTimestamp
  | nvl
  | toChar
  | sysDate
  | mod
deriving DecidableEq, Repr, Inhabited

namespace Func

/- Every function, in the order of their numbers. -/
def all : List Func :=
  [hash, substr, concat, toInt, div, add, sub, mul, sum,
    count, max, min, avg, group, order, testLoad, split,
    toDate, toTimestamp, nvl, toChar, sysDate, mod]

/- The name of a function in upper case. -/
def name : Func → String
  | hash => "HASH"
  | substr => "SUBSTR"
  | concat => "CONCAT"
  | toInt => "TOINT"
  | div => "DIV"
  | add => "ADD"
  | sub => "SUB"
  | mul => "MUL"
  | sum => "SUM"
  | count => "COUNT"
  | max => "MAX"
  | min => "MIN"
  | avg => "AVG"
  | group => "GROUP"
  | order => "ORDER"
  | testLoad => "TESTLOAD"
  | split => "SPLIT"
  | toDate => "TO_DATE"
  | toTimestamp => "TO_TIMESTAMP"
  | nvl => "NVL"
  | toChar => "TO_CHAR"
  | sysDate => "SYSDATE"
  | mod => "MOD"

/- The function of a name, in whatever case it is written. -/
def ofName?
    (s : String) : Option Func :=
  all.find? fun f => decide (f.name = CharClass.upper s)

/- The list of functions leaves none out. -/
theorem mem_all
    (f : Func) :
    f ∈ all := by
  cases f <;> decide

end Func

end PartitionPruning
