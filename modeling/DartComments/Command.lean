import DartComments.Arguments
import DartComments.Comment.Generation
import DartComments.Console
import DartComments.Session
import DartComments.Text.LineEnding

/-!
# The command

The command takes a key and the path of a source. It asks before anything leaves the machine, then
locates the declarations, asks for a comment for each of them, and writes the result to one file in
the working directory. The file is written last: whatever fails before leaves the disk as it was.
-/

namespace DartComments

inductive Status where
  | success
  | failure
deriving DecidableEq

def Status.code : Status → Nat
  | .success => 0
  | .failure => 1

namespace Command

/-- Annotates one file and writes the result to another. -/
def annotateFile (parser : Parser) (client : Client) (src dst : Path) (template : PromptTemplate) :
    Action Status := do
  Action.echo ("Loading source file '" ++ src.text ++ "'...")
  let w ← get
  if ! (← Action.ofExcept .disk (w.disk.isFile w.cwd src)) then
    Action.report ("Error: file not found: " ++ src.text)
    return .failure
  match ← Action.ofExcept id (analyse parser w.disk w.cwd src.text) with
  | none =>
    Action.report ("Error: nothing to analyse in " ++ src.text)
    return .failure
  | some (u, ds) =>
    let ending := (LineEnding.dominant u.source).text
    let result ← annotate client u (some ds) template ending
    let bytes ← Action.ofExcept .unencodable (Utf8.encodeEscaped result)
    Action.writeFile dst bytes
    Action.echo ("Updated source written to " ++ dst.text)
    return .success

/-- Is the first line of the input a yes? And the input after that line. -/
def confirm (input : Text) : Bool × Text :=
  let line := input.takeWhile (· ≠ .char '\n')
  (input.head? = some (.char 'y'), input.drop (line.length + 1))

def usage : Text := "dartdoc <openai api key> <path to dart file>"

def warning : Text :=
  "WARNING: You are about to submit source code to OpenAI's servers.\n\nProceed? [N\\y]"

def outputName : Text := "output.dart"

/-- What the command is started with. -/
structure Invocation where
  arguments : List Text
  input : Text
  environment : Settings.Environment

/-- The key and the source. There is no source when its place is dealt something else than one
argument. -/
def readArguments (args : List Text) : Option (Text × Option Text) :=
  match Arguments.deal? 2 args with
  | some [[key], [source]] => some (key, some source)
  | some [[key], _] => some (key, none)
  | _ => none

/-- Reports the failures that are expected and passes the others on. -/
def reporting (x : Action Status) : Action Status :=
  tryCatch x fun e => do
    if e.isReported then
      Action.report ("Error: " ++ e.message)
      pure .failure
    else throw e

/-- Opens a client and annotates the source into the output file. -/
def annotateSource (parser : Parser) (key : Text) (settings : Settings) (src : Path) :
    Action Status :=
  reporting do
    let client ← Action.ofExcept .unencodable (Client.new key settings)
    let w ← get
    annotateFile parser client src (Path.child ⟨1, w.cwd⟩ outputName) .standard

/-- Runs the command. -/
def run (parser : Parser) (i : Invocation) : Action Status := do
  match readArguments i.arguments with
  | none =>
    Action.printLine usage
    return .success
  | some (key, source) =>
    Action.printLine warning
    if ! (confirm i.input).1 then return .success
    Console.setVerbosity (.bool (! Settings.quietRequested i.environment))
    match Settings.ofEnvironment i.environment with
    | .error e =>
      Action.report ("Error: " ++ e.message)
      return .failure
    | .ok settings =>
      match source with
      | none => throw .noSource
      | some source => annotateSource parser key settings (Path.ofText source)

end Command

end DartComments
