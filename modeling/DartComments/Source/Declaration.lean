import DartComments.Text.Quoted

/-!
# Declarations

A declaration is a function or method with the range of source it covers: from where its comment
goes to where it ends. Sequences of declarations keep the order they were given in; `isMonotonic`
and `hasOverlaps` compare each declaration with the next one only.
-/

namespace DartComments

/-- The code points from `start` up to, not including, `stop`. -/
structure SourceRange where
  start : Nat
  stop : Nat
  start_le_stop : start ≤ stop
deriving DecidableEq

/-- Two offsets that are no range. -/
structure RangeError where
  start : Int
  stop : Int
deriving DecidableEq

/-- Two offsets in parentheses. -/
def pairText (a b : Int) : Text := "(" ++ Text.ofInt a ++ ", " ++ Text.ofInt b ++ ")"

def RangeError.message (e : RangeError) : Text :=
  "Invalid source range " ++ pairText e.start e.stop

namespace SourceRange

/-- The range between two offsets, which must not be negative or in the wrong order. -/
def ofInts (start stop : Int) : Except RangeError SourceRange :=
  if h : 0 ≤ start ∧ start ≤ stop then
    .ok ⟨start.toNat, stop.toNat, by omega⟩
  else .error ⟨start, stop⟩

def text (r : SourceRange) : Text := pairText r.start r.stop

def inspect (r : SourceRange) : Text :=
  "SourceRange(begin=" ++ Text.ofNat r.start ++ ", end=" ++ Text.ofNat r.stop ++ ")"

end SourceRange

inductive DeclarationKind where
  | function
  | method
  | other (label : Text)
deriving DecidableEq

namespace DeclarationKind

def text : DeclarationKind → Text
  | .function => "function"
  | .method => "method"
  | .other label => label

def ofText (t : Text) : DeclarationKind :=
  if t = "function" then .function else if t = "method" then .method else .other t

end DeclarationKind

structure Declaration where
  name : Text
  kind : DeclarationKind
  range : SourceRange
deriving DecidableEq

namespace Declaration

/-- The part of the source that the declaration covers. -/
def sourceText (d : Declaration) (source : Text) : Text :=
  source.slice d.range.start d.range.stop

def inspect (d : Declaration) : Text :=
  "Declaration(name=" ++ d.name.quoted ++ ", kind=" ++ d.kind.text.quoted ++ ", range=" ++
    d.range.inspect ++ ")"

/-- Is every declaration followed by one that starts no earlier? -/
def isMonotonic : List Declaration → Bool
  | a :: b :: rest => a.range.start ≤ b.range.start && isMonotonic (b :: rest)
  | _ => true

/-- Is some declaration followed by one that starts before it ends? -/
def hasOverlaps : List Declaration → Bool
  | a :: b :: rest => b.range.start < a.range.stop || hasOverlaps (b :: rest)
  | _ => false

def inspectAll (ds : List Declaration) : Text :=
  "DeclarationSequence([" ++ Text.join (Text.ofString ", ") (ds.map inspect) ++ "])"

end Declaration

end DartComments
