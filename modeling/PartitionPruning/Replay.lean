import PartitionPruning.Capture.Layout
import PartitionPruning.Capture.Listing
import PartitionPruning.Statement.Resolution

/-
  Replaying a captured statement: what is printed about its
  key ranges.

  Key definitions include:
    * `Replay.Fault`
    * `Replay.load`
    * `Replay.Options`
    * `Replay.Report`
    * `Replay.report`
-/

namespace PartitionPruning

namespace Replay

------------------------------------------------------------
-- Faults
------------------------------------------------------------

/- Why a capture file can not be replayed. -/
inductive Fault where
  | unreadable (path reason : String)
  | undecodable (path : String) (cause : CaptureFault)
  | unresolved (path : String) (cause : Failure)
deriving DecidableEq, Repr

namespace Fault

/- What was being done. -/
def attempt : Fault → String
  | unreadable path _ => s!"Failed to read capture {path}"
  | undecodable path _ => s!"Failed to decode capture {path}"
  | unresolved path _ => s!"Failed to resolve {path}"

/- What was in the way. -/
def cause : Fault → String
  | unreadable _ reason => reason
  | undecodable _ cause => cause.message
  | unresolved _ cause => cause.message

/- The fault in one line. -/
def message
    (f : Fault) : String :=
  f.attempt ++ ": " ++ f.cause

/- Text with four spaces before every line. -/
def indented
    (text : String) : String :=
  "    " ++ "\n    ".intercalate (text.splitOn "\n")

/- The fault as it is printed. -/
def display
    (f : Fault) : String :=
  s!"Error: {f.attempt}\n\nCaused by:\n" ++
    indented f.cause ++ "\n"

end Fault

/- The reason given for a file that does not exist. -/
def noSuchFile : String :=
  "No such file or directory (os error 2)"

/- The statement captured in a file's content. -/
def load
    (path : String)
    (content : Except String (List UInt8)) :
    Except Fault Statement :=
  match content with
  | .error reason => .error (.unreadable path reason)
  | .ok bs =>
      match Capture.decode bs with
      | .error cause => .error (.undecodable path cause)
      | .ok s => .ok s

------------------------------------------------------------
-- Reports
------------------------------------------------------------

/-
  Nesting of calls to allow in place of what the capture
  says, and whether to show the statement first.
-/
structure Options where
  maxDepth? : Option UInt64
  showStatement : Bool
deriving DecidableEq, Repr, Inhabited

/- What a replay prints, and how it exits. -/
structure Report where
  exitCode : UInt8
  output : String
  errors : String
deriving DecidableEq, Repr

/- The line on a level, of which an empty range has none. -/
def levelLine
    (level : Nat)
    (r : KeyRange) : String :=
  if r.isSinglePoint then s!"   - level {level}: single point\n"
  else if r.isEmpty then ""
  else s!"   - level {level}: range\n"

/- The lines on the ranges of both levels. -/
def rangeLines
    (r : Ranges) : String :=
  s!"partition ranges:{r.display}\n" ++
    levelLine 1 r.one ++ levelLine 2 r.two

/- A statement with the nesting that the options allow. -/
def withDepth
    (o : Options)
    (s : Statement) : Statement :=
  match o.maxDepth? with
  | none => s
  | some depth =>
      { s with config := ⟨s.config.collation, depth⟩ }

/- Replay a statement captured in a file. -/
def ofStatement
    (path : String)
    (o : Options)
    (s : Statement) : Report :=
  let shown :=
    if o.showStatement then
      (Listing.statement s).render ++ "\n"
    else ""
  match ((withDepth o s).resolve Evaluator.builtin).result with
  | .ok r => ⟨0, shown ++ rangeLines r, ""⟩
  | .error cause =>
      ⟨1, shown, (Fault.unresolved path cause).display⟩

/- Replay the content of a file. -/
def report
    (path : String)
    (o : Options)
    (content : Except String (List UInt8)) : Report :=
  match load path content with
  | .error fault => ⟨1, "", fault.display⟩
  | .ok s => ofStatement path o s

end Replay

end PartitionPruning
