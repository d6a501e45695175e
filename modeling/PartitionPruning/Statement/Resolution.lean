import PartitionPruning.Statement.Default
import PartitionPruning.Statement.Notice
import PartitionPruning.Statement.PredicateValue

/-
  The resolution of a statement's predicates into the key
  ranges of both partition levels.

  Predicates are placed one after another.  One that fails
  is reported and passed over.  It leaves the ranges as they
  are unless it belongs to both levels and fails in level
  two only: what it wrote in level one then stays, so that
  the ranges can become narrower by a predicate that failed.
  A resolution as a whole fails only when nothing is known
  about predicates, the links between keys are broken, there
  are too many columns, or a default fails.

  Key definitions include:
    * `Progress`
    * `Statement.placePredicate`
    * `Statement.placePredicates`
    * `Statement.startDrafts`
    * `Resolution`
    * `Statement.resolve`
-/

namespace PartitionPruning

/- The drafts so far, and the notices in order. -/
structure Progress where
  drafts : Drafts
  notices : List Notice

/- The ranges of a statement, or why it has none. -/
structure Resolution where
  result : Except Failure Ranges
  notices : List Notice

namespace Statement

------------------------------------------------------------
-- Predicates
------------------------------------------------------------

/- The notice of a predicate that failed. -/
def failureNotice
    (s : Statement)
    (i : Nat)
    (cause : Failure) : Notice :=
  if s.request.command = .prepare then
    .predicateUnbound i cause
  else .predicateFailed i cause

/- The notices of a comparator for each level placed in. -/
def comparatorNotices
    (op : Comparator)
    (placed : Nat) : List Notice :=
  if op = .other then List.replicate placed .comparatorUnused
  else []

/- Place the predicate at index `i`. -/
def placePredicate
    (s : Statement)
    (ev : Evaluator)
    (d : Drafts)
    (i : Nat)
    (p? : Option Predicate) : Progress :=
  match p? with
  | none => ⟨d, [.predicateMissing i]⟩
  | some p =>
      if p.level = .zero then ⟨d, [.predicateWithoutLevel i]⟩
      else
        match s.predicateValue ev p with
        | .error cause => ⟨d, [s.failureNotice i cause]⟩
        | .ok v =>
            let placement :=
              d.place p.level p.op p.first.toNat
                p.second.toNat v
            let notices :=
              comparatorNotices p.op placement.placed
            match placement.failure? with
            | none => ⟨placement.drafts, notices⟩
            | some cause =>
                ⟨placement.drafts,
                  notices ++ [s.failureNotice i cause]⟩

/- Place predicates one after another, from index `i` on. -/
def placePredicates
    (s : Statement)
    (ev : Evaluator)
    (d : Drafts) :
    Nat → List (Option Predicate) → Progress
  | _, [] => ⟨d, []⟩
  | i, p? :: rest =>
      let first := s.placePredicate ev d i p?
      let others :=
        s.placePredicates ev first.drafts (i + 1) rest
      ⟨others.drafts, first.notices ++ others.notices⟩

------------------------------------------------------------
-- Drafts To Start From
------------------------------------------------------------

/- Columns of level one that the table is partitioned on. -/
def firstCount
    (s : Schema) : Nat :=
  match s.level with
  | .zero => 0
  | .one => s.columns.length
  | .two => s.columns.length

/- Columns of level two that the table is partitioned on. -/
def secondCount
    (s : Schema) : Nat :=
  match s.level with
  | .two => s.subColumns.length
  | .zero => 0
  | .one => 0

/- Drafts in which no column of the table is set. -/
def startDrafts
    (s : Schema) : Except Failure Drafts := do
  let one ← KeyRange.ofColumns (firstCount s)
  let two ← KeyRange.ofColumns (secondCount s)
  let bordersOne ← Draft.bordersFor (firstCount s)
  let bordersTwo ← Draft.bordersFor (secondCount s)
  .ok ⟨⟨one, bordersOne⟩, ⟨two, bordersTwo⟩⟩

------------------------------------------------------------
-- Whole Statements
------------------------------------------------------------

/-
  Place the defaults that an `INSERT` relies on.  Other
  statements rely on none.
-/
def applyDefaults
    (s : Statement)
    (ev : Evaluator)
    (d : Drafts) : Except Failure Drafts :=
  if s.isInsert then s.placeDefaults ev 0 s.schema.keys d
  else .ok d

/- Resolve a given list of predicates. -/
def resolveList
    (s : Statement)
    (ev : Evaluator)
    (predicates : List (Option Predicate)) : Resolution :=
  match startDrafts s.schema with
  | .error cause => ⟨.error cause, []⟩
  | .ok start =>
      let progress := s.placePredicates ev start 0 predicates
      match s.applyDefaults ev progress.drafts with
      | .error cause =>
          ⟨.error cause,
            progress.notices ++ [.defaultsFailed cause]⟩
      | .ok d => ⟨.ok (d.toRanges), progress.notices⟩

/- The key ranges that the statement's predicates allow. -/
def resolve
    (s : Statement)
    (ev : Evaluator) : Resolution :=
  match s.predicates? with
  | none => ⟨.error .noRelations, [.relationsMissing]⟩
  | some predicates =>
      match s.schema.validate with
      | .error cause =>
          ⟨.error cause, [.keysInconsistent cause]⟩
      | .ok _ => s.resolveList ev predicates

end Statement

end PartitionPruning
