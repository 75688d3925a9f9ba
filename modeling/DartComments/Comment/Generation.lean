import DartComments.Backend.Client
import DartComments.Comment.Insertion

/-!
# Generating comments

Comments for the declarations of a source are asked for one after the other. The next request is
sent only when the comment before it has been taken, so a failure ends the run before any later
declaration is asked about.
-/

namespace DartComments

namespace Generation

/-- Asks for the comment of one declaration. -/
def comment (client : Client) (template : PromptTemplate) (name source : Text) : Action Text := do
  Action.echo ("looking up " ++ name)
  let messages ← Action.ofExcept .template (Prompt.build template name source)
  client.generate (.arr (messages.map Message.toJson))

end Generation

/-- Declarations that are still to be asked about. -/
structure Generation where
  pending : List Declaration
  world : World

namespace Generation

/-- An action as a step of the generation. -/
def act {α : Type} (x : Action α) : Run Generation α := do
  let g ← get
  let (r, world) := Action.exec x g.world
  set { g with world }
  Action.ofExcept id r

/-- The comment of the next declaration. A failure ends the generation. -/
def next (client : Client) (template : PromptTemplate) (source : Text) :
    Run Generation (Option Text) := do
  match (← get).pending with
  | [] => pure none
  | d :: rest => do
    modify fun g => { g with pending := [] }
    let t ← act (comment client template d.name (d.sourceText source))
    modify fun g => { g with pending := rest }
    pure (some t)

/-- Runs a generation over some declarations. -/
def forEach {α : Type} (pending : List Declaration) (x : Run Generation α) : Action α := do
  let w ← get
  let (r, g) := Action.exec x ⟨pending, w⟩
  set g.world
  Action.ofExcept id r

end Generation

/-- The source of a unit with a generated comment before each declaration. The declarations are
located when they are not given. -/
def annotate (client : Client) (u : SourceUnit) (given : Option (List Declaration))
    (template : PromptTemplate) (ending : Text) : Action Text := do
  let ds ← match given with
    | some ds => pure ds
    | none => do
      Action.echo "Parsing Dart source with Tree-sitter..."
      Action.ofExcept .locate u.declarations
  Action.echo ("Found " ++ Text.ofNat ds.length ++ " Dart declarations")
  Generation.forEach ds
    (Insertion.copyFrom u.source ending (Generation.next client template u.source) 0 ds)

end DartComments
