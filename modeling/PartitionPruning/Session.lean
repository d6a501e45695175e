import PartitionPruning.Failure
import PartitionPruning.NameTable

/-
  The state of a client's connection.

  Key definitions include:
    * `Session`
    * `Session.value`
    * `Session.setVariable`
    * `Session.value_setVariable`
-/

namespace PartitionPruning

/- The connection's collation and its user variables. -/
structure Session where
  collation : Collation
  userVariables : NameTable
deriving DecidableEq, Inhabited

namespace Session

/- A session in which no variable is set. -/
def ofCollation
    (c : Collation) : Session :=
  ⟨c, NameTable.empty⟩

/-
  The name that a variable is kept under: without leading
  at-signs, and without regard to ASCII case.
-/
def variableKey
    (name : String) : String :=
  CharClass.lower
    (String.ofList (name.toList.dropWhile (· == '@')))

/- Set a user variable to a value. -/
def setVariable
    (s : Session)
    (name : String)
    (v : Value) : Session :=
  ⟨s.collation, s.userVariables.insert (variableKey name) v⟩

/- The value of a user variable. -/
def value
    (s : Session)
    (name : String) : Except Failure Value :=
  match s.userVariables.get? (variableKey name) with
  | some v => .ok v
  | none => .error (.noVariable name)

/-
  A variable that is set has its value under every spelling
  of its name, and no other changes.
-/
theorem value_setVariable
    (s : Session)
    (name other : String)
    (v : Value) :
    (s.setVariable name v).value other =
      if variableKey other = variableKey name then .ok v
      else s.value other := by
  have hGet :
      (s.setVariable name v).userVariables.get?
          (variableKey other) =
        if variableKey other = variableKey name then some v
        else s.userVariables.get? (variableKey other) :=
    NameTable.get?_insert _ _ _ _
  unfold value
  rw [hGet]
  by_cases hKey : variableKey other = variableKey name
  · rw [if_pos hKey, if_pos hKey]
  · rw [if_neg hKey, if_neg hKey]

end Session

end PartitionPruning
