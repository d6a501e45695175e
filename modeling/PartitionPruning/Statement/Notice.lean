import PartitionPruning.Failure

/-
  What a resolution reports beside its result.

  Key definitions include:
    * `Severity`
    * `Notice`
    * `Notice.severity`
    * `Notice.text`
-/

namespace PartitionPruning

/- How much a notice matters. -/
inductive Severity where
  | debug
  | info
  | warn
deriving DecidableEq, Repr

/- The name of a severity. -/
def Severity.name : Severity → String
  | debug => "DEBUG"
  | info => "INFO"
  | warn => "WARN"

/-
  A notice.  Predicates are named by their place in the
  list.
-/
inductive Notice where
  | relationsMissing
  | keysInconsistent (cause : Failure)
  | predicateMissing (index : Nat)
  | predicateWithoutLevel (index : Nat)
  | predicateUnbound (index : Nat) (cause : Failure)
  | predicateFailed (index : Nat) (cause : Failure)
  | comparatorUnused
  | defaultsFailed (cause : Failure)
deriving DecidableEq, Repr

namespace Notice

/- How much each notice matters. -/
def severity : Notice → Severity
  | relationsMissing => .warn
  | keysInconsistent _ => .warn
  | predicateMissing _ => .info
  | predicateWithoutLevel _ => .info
  | predicateUnbound _ _ => .debug
  | predicateFailed _ _ => .info
  | comparatorUnused => .info
  | defaultsFailed _ => .warn

/- The wording of a notice. -/
def text : Notice → String
  | relationsMissing =>
      "invalid ctx, relation info is missing"
  | keysInconsistent cause =>
      s!"partition key info is inconsistent: {cause.message}"
  | predicateMissing index =>
      s!"relation {index} is not valid here, ignore it"
  | predicateWithoutLevel index =>
      s!"relation {index} has level zero, ignore it"
  | predicateUnbound index cause =>
      s!"relation {index} has no bound value before execute: " ++
        cause.message
  | predicateFailed index cause =>
      s!"fail to resolve relation {index}, ignore it: " ++
        cause.message
  | comparatorUnused =>
      "comparator other can not narrow a range, ignore it"
  | defaultsFailed cause =>
      "fail to handle default value of part keys: " ++
        cause.message

end Notice

end PartitionPruning
