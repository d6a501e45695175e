import PartitionPruning.Replay

/-
  The command line: replay a capture file and print its key
  ranges.

  Key definitions include:
    * `CommandLine.Arguments`
    * `CommandLine.parse?`
    * `main`
-/

namespace PartitionPruning

namespace CommandLine

/- The capture file and the options of a replay. -/
structure Arguments where
  path? : Option String
  options : Replay.Options

/- A depth of nesting in decimal. -/
def depth?
    (text : String) : Option UInt64 :=
  match Numeral.integer? text.toList with
  | some i =>
      if 0 ≤ i ∧ i < UInt64.size then some (UInt64.ofNat i.toNat)
      else none
  | none => none

/- Arguments with a depth of nesting, if it is one. -/
def withDepth?
    (a : Arguments)
    (text : String) : Option Arguments :=
  (depth? text).map fun depth =>
    { a with options := { a.options with maxDepth? := depth } }

/- The option for a depth of nesting that holds the depth. -/
def depthOption : String :=
  "--max-func-depth="

/- Read the words after the command's name. -/
def parseFrom
    (a : Arguments) : List String → Option Arguments
  | [] => some a
  | "--max-func-depth" :: text :: rest => do
      let a ← withDepth? a text
      parseFrom a rest
  | "--show-request" :: rest =>
      parseFrom
        { a with
          options := { a.options with showStatement := true } }
        rest
  | word :: rest =>
      if word.startsWith depthOption then do
        let a ←
          withDepth? a (word.drop depthOption.length).toString
        parseFrom a rest
      else if word.startsWith "-" || a.path?.isSome then none
      else parseFrom { a with path? := word } rest

/-
  The arguments of a replay, if the words are a replay.
  Asking for debug output changes nothing in a report.
-/
def parse?
    (words : List String) : Option Arguments :=
  match words.filter (fun w => w != "-d" && w != "--debug") with
  | "replay" :: rest => parseFrom ⟨none, default⟩ rest
  | _ => none

/- Why a file can not be read. -/
def reason : IO.Error → String
  | .noFileOrDirectory _ _ _ => Replay.noSuchFile
  | .permissionDenied _ _ _ =>
      "Permission denied (os error 13)"
  | .inappropriateType _ 21 _ => "Is a directory (os error 21)"
  | e => toString e

/- The content of a file. -/
def content
    (path : String) :
    IO (Except String (List UInt8)) := do
  try
    let bytes ← IO.FS.readBinFile path
    return .ok bytes.toList
  catch e =>
    return .error (reason e)

/- Replay a file and print the report. -/
def run
    (path : String)
    (o : Replay.Options) : IO UInt32 := do
  let bytes ← content path
  let report := Replay.report path o bytes
  (← IO.getStdout).putStr report.output
  (← IO.getStderr).putStr report.errors
  return report.exitCode.toUInt32

end CommandLine

end PartitionPruning

open PartitionPruning in
/- Replay what the words of the command line ask for. -/
def main
    (words : List String) : IO UInt32 := do
  match CommandLine.parse? words with
  | some ⟨some path, o⟩ => CommandLine.run path o
  | _ => do
      (← IO.getStderr).putStrLn
        ("usage: replay [--max-func-depth N] " ++
          "[--show-request] [--debug] FILE")
      return 2
