import DartComments.World

/-!
# Inserting comments

Each comment goes right before its declaration, followed by a line ending; all else is copied. The
declarations are taken in the order given. A cursor stands where the last declaration starts: the
text from there up to the next start is copied before its comment, and nothing when the next start
lies before the cursor, in which case the text from there on is copied again at the end.

Comments are pulled one at a time, each only when the declaration before it is done and its own
range has been found to lie in the source.
-/

namespace DartComments

namespace Insertion

variable {σ : Type}

/-- Copies the source from `cursor` on with comments before the declarations; `next` pulls a
comment. -/
def copyFrom (source ending : Text) (next : Run σ (Option Text)) :
    Nat → List Declaration → Run σ Text
  | cursor, [] => pure (source.drop cursor)
  | cursor, d :: ds => do
    if source.length < d.range.stop then
      throw (.outsideSource d.range d.name source.length)
    match ← next with
    | none => throw (.noComment d.name)
    | some comment => do
      let rest ← copyFrom source ending next d.range.start ds
      pure (source.slice cursor d.range.start ++ comment ++ ending ++ rest)

end Insertion

/-- Comments that are there already, some of which may turn out to be failures. -/
structure Supply where
  pending : List (Except Failure Text)
  taken : Nat

namespace Supply

/-- Takes the next comment. -/
def next : Run Supply (Option Text) := do
  let s ← get
  match s.pending with
  | [] => pure none
  | item :: rest => do
    set (Supply.mk rest (s.taken + 1))
    let t ← Action.ofExcept id item
    pure (some t)

end Supply

/-- The source with the comments of a supply before its declarations, and what is left of the
supply. -/
def insertComments (source : Text) (ds : List Declaration) (ending : Text)
    (comments : List (Except Failure Text)) : Except Failure Text × Supply :=
  Action.exec (Insertion.copyFrom source ending Supply.next 0 ds) ⟨comments, 0⟩

end DartComments
