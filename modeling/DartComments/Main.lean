import DartComments.Command
import DartComments.Dart.Reader

/-!
# The program

Hands the arguments, the environment, the first line of the input and the source file to
`Command.run`, and carries out what it did: printing, reporting and writing. There is no connection
to a backend here, so the first request fails and nothing is written.
-/

namespace DartComments.Main

/-- The variables that a run looks at. -/
def variableNames : List String :=
  ["DARTDOC_MODEL", "DARTDOC_MAX_TOKENS", "DARTDOC_TEMPERATURE", "DARTDOC_ENDPOINT",
    "DARTDOC_API_STYLE", "DARTDOC_TIMEOUT", "DARTDOC_QUIET"]

def readEnvironment : IO Settings.Environment :=
  variableNames.filterMapM fun name => do
    let value ← IO.getEnv name
    return value.map fun v => (Text.ofString name, Text.ofString v)

/-- A file at a place, with the directories above it. -/
def diskWith (place : List Text) (content : Bytes) : Disk :=
  ⟨(List.range place.length).map (fun i => (place.take i, Entry.directory)) ++
    [(place, .file content)]⟩

/-- The disk as far as a run can see it: the working directory, and the source if it is a file. -/
def readDisk (cwd : List Text) (arguments : List String) : IO Disk := do
  let top : Disk := ⟨(List.range (cwd.length + 1)).map fun i => (cwd.take i, .directory)⟩
  match arguments with
  | [_, source] =>
    try
      let content ← IO.FS.readBinFile source
      let place := (Path.normalise (Path.text ⟨1, cwd⟩) (Text.ofString source)).parts
      return ⟨top.entries ++ (diskWith place content.toList).entries⟩
    catch _ => return top
  | _ => return top

def bytesOf (t : Text) : ByteArray := ⟨(t.flatMap Utf8.encodePoint).toArray⟩

def stringOf (t : Text) : String := (String.fromUTF8? (bytesOf t)).getD ""

/-- Carries out one event. -/
def perform : Event → IO Unit
  | .printed t => do
    let out ← IO.getStdout
    out.write (bytesOf t)
    out.flush
  | .reported t => do
    let err ← IO.getStderr
    err.write (bytesOf t)
  | .sent _ => pure ()
  | .saved path content => IO.FS.writeBinFile (stringOf path.text) ⟨content.toArray⟩

end DartComments.Main

open DartComments DartComments.Main

/-- A run that gets no answer prints its question and stops, so the question is printed before the
answer is read, and the rest of the run's events after that. -/
def main (arguments : List String) : IO UInt32 := do
  let cwd := Path.components (Text.ofString (← IO.currentDir).toString)
  let world : World := {
    verbosity := .bool false
    outcomes := [.failure "no connection"]
    cwd
    disk := ← readDisk cwd arguments
    trace := [] }
  let environment ← readEnvironment
  let run (input : Text) :=
    Action.exec (Command.run Dart.parse ⟨arguments.map Text.ofString, input, environment⟩) world
  let asked := (run []).2.trace
  asked.forM perform
  let answer ← if arguments.length = 2 then (← IO.getStdin).getLine else pure ""
  let (result, after) := run (Text.ofString answer)
  (after.trace.drop asked.length).forM perform
  match result with
  | .ok status => return status.code.toUInt32
  | .error e =>
    perform (.reported (e.message ++ "\n"))
    return 1
