import DartComments.Json.Basic
import DartComments.Prompt.Template
import DartComments.Text.Blank

/-!
# Prompts

A prompt asks for the comment of one declaration: the preamble, then for each example a request
and its answer, then the request itself. Backends that take one text instead of messages get the
messages flattened, each under its role in brackets, with the role of the answer left open.

    build p name source  is  2 * p.examples.length + 2  messages long
-/

namespace DartComments

/-- Fixed instructions, worked examples, and the wording of a request. -/
structure PromptTemplate where
  preamble : Text
  /-- Sources of declarations with their comments. -/
  examples : List (Text × Text)
  /-- A template with the arguments `name` and `procedure`. -/
  request : Text

namespace PromptTemplate

def standardRequest : Text :=
  "Generate a docstring for the following dart function, \x7bname\x7d.\n--\n\x7bprocedure\x7d\n"

/-- The prompt used when no other is given. -/
def standard : PromptTemplate where
  preamble :=
    "You are an assistant that writes Dart documentation comments. Reply with the documentation "
      ++ "comment only: one or more lines starting with '///', referring to parameters as [name]. "
      ++ "Do not repeat the code."
  examples :=
    [("double div(double x, double y) => x / y;",
      "/// Calculates the division between [x] and [y] where [x] is the numerator and\n"
        ++ "/// [y] is the denominator.")]
  request := standardRequest

end PromptTemplate

inductive Role where
  | system
  | user
  | assistant
deriving DecidableEq

def Role.text : Role → Text
  | .system => "system"
  | .user => "user"
  | .assistant => "assistant"

structure Message where
  role : Role
  content : Text
deriving DecidableEq

/-- A message as an object with the fields `role` and `content`. -/
def Message.toJson (m : Message) : Json :=
  .obj [("role", .str m.role.text), ("content", .str m.content)]

namespace Prompt

/-- The name of an example: the last word before its first opening parenthesis. -/
def exampleName (source : Text) : Text :=
  (Text.words (source.takeWhile (· ≠ .char '('))).getLast?.getD "example"

/-- The request for one declaration. -/
def request (p : PromptTemplate) (name source : Text) : Except TemplateError Text :=
  Template.expand [("name", name), ("procedure", source)] p.request

/-- The messages of the examples. -/
def exampleMessages (p : PromptTemplate) : List (Text × Text) → Except TemplateError (List Message)
  | [] => .ok []
  | (source, comment) :: rest => do
    let question ← request p (exampleName source) source
    let others ← exampleMessages p rest
    pure (⟨.user, question⟩ :: ⟨.assistant, comment⟩ :: others)

/-- The messages that ask for the comment of one declaration. -/
def build (p : PromptTemplate) (name source : Text) : Except TemplateError (List Message) := do
  let shots ← exampleMessages p p.examples
  let question ← request p name source
  pure (⟨.system, p.preamble⟩ :: shots ++ [⟨.user, question⟩])

/-! ## Flattening -/

/-- Why messages cannot be flattened. -/
inductive FlattenError where
  | notIterable (kind : Text)
  | notAnObject (kind : Text)

def FlattenError.message : FlattenError → Text
  | .notIterable kind => "'" ++ kind ++ "' object is not iterable"
  | .notAnObject kind => "'" ++ kind ++ "' object has no attribute 'get'"

/-- One message under its role. A message without a role is the user's. -/
def flattenOne : Json → Except FlattenError Text
  | .obj fields =>
    let role := (Json.lookup "role" fields).getD (.str "user")
    let content := (Json.lookup "content" fields).getD (.str [])
    .ok ("[" ++ role.display ++ "]\n" ++ content.display ++ "\n")
  | v => .error (.notAnObject v.kindName)

def flattenAll : List Json → Except FlattenError (List Text)
  | [] => .ok []
  | v :: vs => do
    let t ← flattenOne v
    let ts ← flattenAll vs
    pure (t :: ts)

/-- The parts of a value that is gone through: items, keys, or code points. -/
def parts : Json → Except FlattenError (List Json)
  | .arr items => .ok items
  | .obj fields => .ok (fields.map fun f => .str f.1)
  | .str t => .ok (t.map fun c => .str [c])
  | v => .error (.notIterable v.kindName)

/-- Messages as one text that ends where the answer starts. -/
def flatten (messages : Json) : Except FlattenError Text := do
  let ms ← parts messages
  let ts ← flattenAll ms
  pure (Text.join (Text.ofString "\n") ts ++ "[assistant]\n")

end Prompt

end DartComments
