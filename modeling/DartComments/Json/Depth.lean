import DartComments.Json.Encoding

/-!
# Deep documents

Arrays and objects may stand in each other only so deep. Where a document goes deeper, reading gives
up at the bracket that is too much, provided that all before it was read well: whether it was can be
told by putting `null` in place of that bracket and closing those that are open.
-/

namespace DartComments

namespace Json

/-- The most brackets that may be open at once. -/
def depthLimit : Nat := 985

/-- What has been passed of a document: its code points in reverse, the brackets that would close
what is open, and whether a string is open in which the next code point may be escaped. -/
structure Passed where
  before : Text := []
  closers : Text := []
  inString : Bool := false
  escaped : Bool := false

/-- Passes one code point. -/
def Passed.next (p : Passed) (c : CodePoint) : Passed :=
  let p := { p with before := c :: p.before }
  if p.inString then
    if p.escaped then { p with escaped := false }
    else if c = .char '\\' then { p with escaped := true }
    else { p with inString := c ≠ .char '\x22' }
  else match c with
    | .char '\x22' => { p with inString := true }
    | .char '[' => { p with closers := .char ']' :: p.closers }
    | .char '\x7b' => { p with closers := .char '\x7d' :: p.closers }
    | .char ']' => { p with closers := p.closers.drop 1 }
    | .char '\x7d' => { p with closers := p.closers.drop 1 }
    | _ => p

/-- What is passed was read well: it can be completed. -/
def Passed.isSound (p : Passed) : Bool := (read? (p.before.reverse ++ "null" ++ p.closers)).isSome

/-- An array or an object. -/
inductive Nest where
  | array
  | object
deriving DecidableEq

/-- What a code point outside of strings opens. -/
def Passed.opens? (p : Passed) (c : CodePoint) : Option Nest :=
  if p.inString then none
  else if c = .char '[' then some .array
  else if c = .char '\x7b' then some .object
  else none

/-- The first array or object that is too deep, with what is before it. -/
def tooDeepFrom? (limit : Nat) (p : Passed) : Text → Option (Nest × Passed)
  | [] => none
  | c :: rest =>
    match p.opens? c with
    | some nest =>
      if limit ≤ p.closers.length then some (nest, p) else tooDeepFrom? limit (p.next c) rest
    | none => tooDeepFrom? limit (p.next c) rest

/-- The array or object at which reading a document gives up. -/
def tooDeep? (t : Text) : Option Nest :=
  match tooDeepFrom? depthLimit {} t with
  | some (nest, p) => if p.isSound then some nest else none
  | none => none

end Json

end DartComments
