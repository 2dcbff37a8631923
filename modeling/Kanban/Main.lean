/-
The schema tool as a program.  It hands the declaration file to the library and
carries out what the outcome says.
-/
import Kanban.CommandLine.Run

namespace Kanban

namespace CommandLine

/-- The declaration file, if it can be read, and the directory written to. -/
def gather (invocation : Invocation) : IO FileTree := do
  let directories := (invocation.output.map fun path => (Path.ofText path).parent).toList
  match invocation.file with
  | none => return ⟨[], directories⟩
  | some path =>
      match ← (IO.FS.readFile path).toBaseIO with
      | .ok text => return ⟨[(Path.ofText path, text)], directories⟩
      | .error _ => return ⟨[], directories⟩

def describe : Failure → String
  | .noSource => noSourceMessage
  | .file cause => cause.message
  | .notJson .malformed => "error: the declaration file is no JSON"
  | .notJson (.tooLong digits) => Digits.excessMessage digits
  | .notYaml .malformed => "error: the declaration file is no YAML"
  | .notYaml cause => "error: the declaration file holds a value that is none: " ++ cause.message
  | .undeclared cause => "error: a declaration cannot be read: " ++ cause.message
  | .uncompiled (.unregistered (.duplicate name)) =>
      "error: entity " ++ name.quoted ++ " is declared twice"
  | .uncompiled (.unregistered (.notKey name)) =>
      "error: " ++ name.quoted ++ " cannot name an entity"
  | .uncompiled (.unrendered (.notText _)) => "error: a signature is no text"
  | .uncompiled (.unrendered (.uncoded message)) => "error: " ++ message
  | .unlinted _ => "error: a signature is no text"

/-- Print an outcome and write the file it leaves behind. -/
def settle (invocation : Invocation) (outcome : Outcome) : IO UInt32 := do
  match invocation.output with
  | some path =>
      if let .ok text := outcome.files.read (Path.ofText path) then IO.FS.writeFile path text
  | none => pure ()
  IO.print outcome.printed
  IO.eprint outcome.told
  return UInt32.ofNat outcome.status

/-- Run the tool on its arguments; the answer is the exit status. -/
def run (arguments : List String) : IO UInt32 := do
  match read arguments with
  | .misused =>
      IO.eprint usage
      return UInt32.ofNat misuseStatus
  | .help =>
      IO.print usage
      return 0
  | .run invocation =>
      match invocation.execute (← gather invocation) with
      | .ok outcome => settle invocation outcome
      | .error cause =>
          IO.eprintln (describe cause)
          return 1

end CommandLine

end Kanban

def main (arguments : List String) : IO UInt32 :=
  Kanban.CommandLine.run arguments
