import DartComments.Dart.Header

/-!
# Places in an expression

Braces in an expression are a literal, the body of an anonymous function, or the cases of a
`switch`. Which of them is seen from the place where they stand: a literal comes where an operand is
due, a body after parentheses that stood there, and after a complete operand there can be no braces
that belong to the expression.
-/

namespace DartComments.Dart

/-- What has just been read. -/
inductive Place where
  /-- An operand is due. -/
  | operand
  /-- An operand is complete. -/
  | done
  /-- Parentheses where an operand was due. -/
  | parameters (formal : Bool)
  /-- The mark of an asynchronous or generating function after them. -/
  | marked
  /-- The word `switch`, and then its subject. -/
  | switchWord
  | subject
  /-- The `if` or `for` of an element of a collection. -/
  | control
  /-- A type is due, is read, or is read with a question mark after it. -/
  | type
  | typed
  | optional
  /-- Type arguments with `depth + 1` marks open, and the place after them. -/
  | angles (depth : Nat) (after : Place)
deriving DecidableEq

namespace Place

/-- Words after which an operand is still due. -/
def openers : List String :=
  ["await", "case", "const", "else", "final", "in", "late", "new", "return", "throw", "var", "when",
    "yield"]

/-- The place after a lexeme where an operand is due. -/
def afterOperand (l : Lexeme) (rest : Forest) : Place :=
  match l with
  | .word "switch" => .switchWord
  | .word w =>
    if openers.contains w then .operand
    else if w = "if" || w = "for" then .control
    else .done
  | .symbol '<' => if rest.isTypedLiteral then .angles 0 .operand else .operand
  | .number => .done
  | .opening .round => .parameters true
  | .opening _ => .done
  | _ => .operand

/-- The place after a lexeme that follows a complete operand. -/
def afterDone (l : Lexeme) (rest : Forest) : Place :=
  match l with
  | .word w =>
    if w = "is" || w = "as" then .type
    else if openers.contains w then .operand
    else if w = "if" || w = "for" then .control
    else .done
  | .symbol '<' => if rest.isApplied then .angles 0 .done else .operand
  | .symbol '!' => .done
  | .symbol _ => .operand
  | .arrow => .operand
  | _ => .done

/-- The place after a type and then a lexeme. -/
def afterType (l : Lexeme) (rest : Forest) : Place :=
  match l with
  | .symbol '.' => .type
  | .symbol '?' => .optional
  | .symbol '<' => if (rest.afterTypes? 0).isSome then .angles 0 .typed else .operand
  | .word "Function" => .typed
  | .opening .round => .typed
  | _ => afterDone l rest

/-- The place after one more lexeme, a group counting as its opening bracket. -/
def next (p : Place) (l : Lexeme) (rest : Forest) : Place :=
  match p, l with
  | .operand, _ => afterOperand l rest
  | .done, _ => afterDone l rest
  | .parameters _, .word "async" => .marked
  | .parameters _, .word "sync" => .marked
  | .parameters _, _ => afterDone l rest
  | .marked, .symbol '*' => .marked
  | .marked, _ => afterDone l rest
  | .switchWord, .opening .round => .subject
  | .switchWord, _ => afterDone l rest
  | .subject, _ => afterDone l rest
  | .control, .opening .round => .operand
  | .control, _ => afterDone l rest
  | .type, .symbol '!' => .type
  | .type, _ => .typed
  | .typed, _ => afterType l rest
  | .optional, .symbol '.' => .operand
  | .optional, _ => afterOperand l rest
  | .angles depth after, .symbol '<' => .angles (depth + 1) after
  | .angles 0 after, .symbol '>' => after
  | .angles (depth + 1) after, .symbol '>' => .angles depth after
  | .angles depth after, _ => .angles depth after

end Place

/-- What braces are. -/
inductive Braces where
  | literal
  | closure
  | cases
  /-- They do not belong to the expression. -/
  | outside
deriving DecidableEq

/-- What braces at a place are. -/
def Place.braces : Place → Braces
  | .parameters true => .closure
  | .parameters false => .outside
  | .marked => .closure
  | .subject => .cases
  | .done => .outside
  | .typed => .outside
  | _ => .literal

/-- What braces at a place are when a body may follow the expression. After parentheses they are
that body if a new declaration comes next, and after a question mark unless a colon comes. -/
def Place.bracesBeforeBody (p : Place) (rest : Forest) : Braces :=
  match p with
  | .parameters true => if rest.startsAnew then .outside else .closure
  | .marked => if rest.startsAnew then .outside else .closure
  | .optional => if rest.head? = some (.symbol ':') then .literal else .outside
  | _ => p.braces

end DartComments.Dart
