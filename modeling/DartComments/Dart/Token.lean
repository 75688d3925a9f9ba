import DartComments.Text.Utf8

/-!
# Tokens of Dart

The source is read one byte at a time, each byte as the character of its code: everything outside
comments and strings is ASCII, and so the place of a character is the place of its byte. Blanks and
comments leave no token. A symbol of several characters is one token for each of them, but for the
arrow, which has to be told from an equals sign, and for `++` and `--`, which may follow an operand.

A string is a pair of brackets around the holes in it, so that what stands in a hole is read as
code again. What is open at a place (braces, holes, strings) is a stack of modes.
-/

namespace DartComments.Dart

/-- A stretch of bytes. -/
structure Span where
  start : Nat
  stop : Nat
deriving DecidableEq

inductive Bracket where
  | round
  | square
  | curly
  /-- The quotes of a string. -/
  | quote
  /-- The braces of an expression in a string. -/
  | hole
deriving DecidableEq

inductive Lexeme where
  /-- An identifier or a keyword. -/
  | word (spelling : String)
  | number
  | symbol (c : Char)
  | arrow
  /-- Two plus signs or two minus signs. -/
  | step
  | opening (b : Bracket)
  | closing (b : Bracket)
  /-- A character that no token starts with. -/
  | stray
deriving DecidableEq

structure Token where
  lexeme : Lexeme
  span : Span
deriving DecidableEq

/-- Something open. -/
inductive Mode where
  | braces
  | hole
  /-- A string that ends with `quote`, or with three of them. A raw one has no escapes or holes. -/
  | text (quote : Char) (triple raw : Bool)
deriving DecidableEq

namespace Token

def isBlank (c : Char) : Bool := c = ' ' || ('\t' ≤ c && c ≤ '\r')

def isWordStart (c : Char) : Bool := c.isAlpha || c = '_' || c = '$'

def isWordPart (c : Char) : Bool := isWordStart c || c.isDigit

def isQuote (c : Char) : Bool := c = '\'' || c = '"'

/-- The length of a comment after its opening mark, when `depth` more are open around it and
comments nest. -/
def nestedLength? : Nat → List Char → Option Nat
  | _, [] => none
  | depth, '/' :: '*' :: rest => (nestedLength? (depth + 1) rest).map (· + 2)
  | 0, '*' :: '/' :: _ => some 2
  | depth + 1, '*' :: '/' :: rest => (nestedLength? depth rest).map (· + 2)
  | depth, _ :: rest => (nestedLength? depth rest).map (· + 1)

/-- The length up to the first closing mark. -/
def flatLength? : List Char → Option Nat
  | [] => none
  | '*' :: '/' :: _ => some 2
  | _ :: rest => (flatLength? rest).map (· + 1)

/-- The length of a comment after its opening mark. Comments nest, but one that would then never
end goes to the first closing mark. -/
def commentLength? (cs : List Char) : Option Nat := (nestedLength? 0 cs).or (flatLength? cs)

/-- What a character starts: how many characters more it takes, the lexeme if there is one, and what
is open after it. -/
structure Step where
  more : Nat := 0
  lexeme : Option Lexeme := none
  modes : List Mode

/-- Does a string mark come three times? -/
def isTriple (q : Char) : List Char → Bool
  | a :: b :: _ => a = q && b = q
  | _ => false

/-- The start of a string whose mark `q` is after `taken` characters. -/
def openText (modes : List Mode) (taken : Nat) (raw : Bool) (q : Char) (rest : List Char) : Step :=
  let triple := isTriple q rest
  ⟨if triple then taken + 2 else taken, some (.opening .quote), .text q triple raw :: modes⟩

/-- A character in a string. -/
def textStep (modes outer : List Mode) (q : Char) (triple raw : Bool) (c : Char)
    (rest : List Char) : Step :=
  if !raw && c = '\\' then { more := 1, modes }
  else if !raw && c = '$' && rest.head? = some '\x7b' then
    ⟨1, some (.opening .hole), .hole :: modes⟩
  else if c = q && (!triple || isTriple q rest) then
    ⟨if triple then 2 else 0, some (.closing .quote), outer⟩
  else { modes }

/-- A closing brace ends what was opened last. -/
def closeBrace : List Mode → Step
  | .hole :: outer => ⟨0, some (.closing .hole), outer⟩
  | _ :: outer => ⟨0, some (.closing .curly), outer⟩
  | [] => ⟨0, some (.closing .curly), []⟩

/-- An identifier, a keyword, or a raw string. -/
def wordStep (modes : List Mode) (c : Char) (rest : List Char) : Step :=
  let tail := rest.takeWhile isWordPart
  match c, rest with
  | 'r', q :: after =>
    if isQuote q then openText modes 1 true q after
    else ⟨tail.length, some (.word (String.ofList (c :: tail))), modes⟩
  | _, _ => ⟨tail.length, some (.word (String.ofList (c :: tail))), modes⟩

/-- A character of code. -/
def codeStep (modes : List Mode) (c : Char) (rest : List Char) : Step :=
  match c, rest with
  | '/', '/' :: _ => { more := (rest.takeWhile (· ≠ '\n')).length, modes }
  | '/', '*' :: after =>
    match commentLength? after with
    | some n => { more := n + 1, modes }
    | none => ⟨0, some .stray, modes⟩
  | '=', '>' :: _ => ⟨1, some .arrow, modes⟩
  | '+', '+' :: _ => ⟨1, some .step, modes⟩
  | '-', '-' :: _ => ⟨1, some .step, modes⟩
  | '(', _ => ⟨0, some (.opening .round), modes⟩
  | ')', _ => ⟨0, some (.closing .round), modes⟩
  | '[', _ => ⟨0, some (.opening .square), modes⟩
  | ']', _ => ⟨0, some (.closing .square), modes⟩
  | '\x7b', _ => ⟨0, some (.opening .curly), .braces :: modes⟩
  | '\x7d', _ => closeBrace modes
  | _, _ =>
    if isBlank c then { modes }
    else if isQuote c then openText modes 0 false c rest
    else if isWordStart c then wordStep modes c rest
    else if c.isDigit then ⟨(rest.takeWhile isWordPart).length, some .number, modes⟩
    else if c.toNat < 0x80 then ⟨0, some (.symbol c), modes⟩
    else ⟨0, some .stray, modes⟩

def step (modes : List Mode) (c : Char) (rest : List Char) : Step :=
  match modes with
  | .text q triple raw :: outer => textStep modes outer q triple raw c rest
  | _ => codeStep modes c rest

/-- The tokens of the characters from `place` on. -/
def scan (modes : List Mode) (place : Nat) : List Char → List Token
  | [] => []
  | c :: rest =>
    let s := step modes c rest
    let next := place + 1 + s.more
    let others := scan s.modes next (rest.drop s.more)
    match s.lexeme with
    | some l => ⟨l, ⟨place, next⟩⟩ :: others
    | none => others
termination_by cs => cs.length
decreasing_by simp only [List.length_drop, List.length_cons]; omega

/-- The length of a byte order mark at the start. -/
def markLength : List Char → Nat
  | '\xef' :: '\xbb' :: '\xbf' :: _ => 3
  | _ => 0

/-- The length of a first line that names an interpreter. -/
def interpreterLength : List Char → Nat
  | '#' :: '!' :: rest => (rest.takeWhile (· ≠ '\n')).length + 2
  | _ => 0

/-- The tokens of a source. -/
def ofBytes (bytes : Bytes) : List Token :=
  let cs := bytes.map Char.ofUInt8
  let mark := markLength cs
  let start := mark + interpreterLength (cs.drop mark)
  scan [] start (cs.drop start)

end Token

end DartComments.Dart
