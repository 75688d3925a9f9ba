import DartComments.Text.Basic

/-!
# Paths

A path is a text of components between slashes. `ofText` drops the empty components and the single
dots and keeps `..`, because what stands before `..` may be a link. `normalise` is purely textual:
it also lets `..` take away the component before it. A path with exactly two leading slashes keeps
them, more than two count as one.
-/

namespace DartComments

/-- Components after no, one or two leading slashes. -/
structure Path where
  slashes : Nat
  parts : List Text
deriving DecidableEq

namespace Path

def slash : CodePoint := .char '/'

def dot : Text := "."

def dotDot : Text := ".."

/-- How many leading slashes count: two when there are exactly two, else at most one. -/
def leadingSlashes (t : Text) : Nat :=
  match (t.takeWhile (· = slash)).length with
  | 0 => 0
  | 2 => 2
  | _ => 1

/-- A component that says something. -/
def isPlain (c : Text) : Bool := ! c.isEmpty && c ≠ dot

/-- The components of a text, without the empty ones and the single dots. -/
def components (t : Text) : List Text := (t.splitOn slash).filter isPlain

def ofText (t : Text) : Path := ⟨leadingSlashes t, components t⟩

def isAbsolute (p : Path) : Bool := 0 < p.slashes

/-- The text of a path; the empty path is a single dot. -/
def text (p : Path) : Text :=
  if p.slashes = 0 && p.parts.isEmpty then dot
  else List.replicate p.slashes slash ++ Text.join [slash] p.parts

/-- A path inside a directory. -/
def child (p : Path) (name : Text) : Path := ⟨p.slashes, p.parts ++ [name]⟩

/-! ## Normal form -/

/-- Adds a component to those before it, which are given in reverse: `..` takes one away, unless
there is none to take. -/
def pushComponent (rooted : Bool) (before : List Text) (c : Text) : List Text :=
  if c ≠ dotDot then c :: before
  else match before with
    | [] => if rooted then [] else [c]
    | b :: bs => if b = dotDot then c :: before else bs

/-- The text without empty components, single dots and needless `..`. -/
def normaliseText (t : Text) : Text :=
  let slashes := leadingSlashes t
  let parts := ((components t).foldl (pushComponent (0 < slashes)) []).reverse
  text ⟨slashes, parts⟩

/-- A text as it is seen from the working directory. -/
def absoluteText (cwd : Text) (t : Text) : Text :=
  if leadingSlashes t = 0 then
    if cwd.getLast? = some slash then cwd ++ t else cwd ++ [slash] ++ t
  else t

/-- The one path that stands for all spellings of a text that mean the same. -/
def normalise (cwd : Text) (t : Text) : Path := ofText (normaliseText (absoluteText cwd t))

end Path

end DartComments
