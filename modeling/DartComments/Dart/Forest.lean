import DartComments.Dart.Token

/-!
# Brackets

The tokens of a source as a forest: a pair of brackets with all that is between them is one group.
A source whose brackets do not match has no forest; the token where that shows is told instead.
-/

namespace DartComments.Dart

/-- Tokens in order, with what brackets enclose set apart. -/
inductive Forest where
  | nil
  | leaf (t : Token) (rest : Forest)
  | group (b : Bracket) (span : Span) (inner rest : Forest)

namespace Forest

/-- A closing bracket whose partner has not been met yet, and what follows it. -/
structure Closing where
  bracket : Bracket
  span : Span
  after : Forest

/-- Reads tokens from the last to the first: the forest they start with, and the brackets that are
closed in it but not opened. -/
def gather : List Token → Except Span (Forest × List Closing)
  | [] => .ok (.nil, [])
  | t :: ts => do
    let (here, closings) ← gather ts
    match t.lexeme, closings with
    | .closing b, _ => .ok (.nil, ⟨b, t.span, here⟩ :: closings)
    | .opening b, c :: others =>
      if b = c.bracket then .ok (.group b ⟨t.span.start, c.span.stop⟩ here c.after, others)
      else .error t.span
    | .opening _, [] => .error t.span
    | .stray, _ => .error t.span
    | _, _ => .ok (.leaf t here, closings)

/-- The forest of tokens whose brackets match, or the place where they do not. -/
def ofTokens (ts : List Token) : Except Span Forest := do
  let (forest, closings) ← gather ts
  match closings with
  | [] => .ok forest
  | c :: _ => .error c.span

/-! ## What comes next -/

/-- The lexeme that a forest starts with. -/
def head? : Forest → Option Lexeme
  | .nil => none
  | .leaf t _ => some t.lexeme
  | .group b .. => some (.opening b)

/-- Does a word or metadata come, or nothing at all? -/
def startsAnew (f : Forest) : Bool :=
  match f.head? with
  | none => true
  | some (.word _) => true
  | some l => l = .symbol '@'

/-- What follows type arguments, after the first of whose marks `depth` others are open. Nothing
but types may stand in them. -/
def afterTypes? : Nat → Forest → Option Forest
  | _, .nil => none
  | depth, .leaf t rest =>
    match t.lexeme, depth with
    | .word _, _ => afterTypes? depth rest
    | .symbol '<', _ => afterTypes? (depth + 1) rest
    | .symbol '>', 0 => some rest
    | .symbol '>', d + 1 => afterTypes? d rest
    | .symbol '.', _ => afterTypes? depth rest
    | .symbol ',', _ => afterTypes? depth rest
    | .symbol '?', _ => afterTypes? depth rest
    | _, _ => none
  | depth, .group b _ _ rest => if b = .round then afterTypes? depth rest else none

/-- Is a less-than sign before this forest the start of type arguments of what precedes it? -/
def isApplied (f : Forest) : Bool :=
  match (afterTypes? 0 f).map head? with
  | some (some (.opening .round)) => true
  | some (some (.symbol c)) => ".,;:?=".toList.contains c
  | some none => true
  | _ => false

/-- Is a less-than sign before this forest the start of type arguments of a literal or of type
parameters of an anonymous function? -/
def isTypedLiteral (f : Forest) : Bool :=
  match (afterTypes? 0 f).bind head? with
  | some (.opening _) => true
  | _ => false

/-- Can this stand between the parentheses of a function's parameters? Numbers and strings only come
as default values. -/
def isParameters (inDefault : Bool) : Forest → Bool
  | .nil => true
  | .leaf t rest =>
    match t.lexeme with
    | .symbol ',' => isParameters false rest
    | .symbol '=' => isParameters true rest
    | .symbol ':' => isParameters true rest
    | .number => inDefault && isParameters inDefault rest
    | _ => isParameters inDefault rest
  | .group b _ _ rest => (b ≠ .quote || inDefault) && isParameters inDefault rest

end Forest

end DartComments.Dart
