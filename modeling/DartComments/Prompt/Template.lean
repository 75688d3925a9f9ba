import DartComments.Prompt.Value
import DartComments.Text.Digit

/-!
# Request templates

A template is literal text with fields in braces; a brace that is text is doubled. A field names
an argument, may pick one code point of it with `[i]` or what it has under a name with `.name`, may
quote it (`!r`, `!s`, `!a`), and may lay it out after a colon:
`[[fill]align][0][width][.precision][s]`. The layout may hold fields of its own, one level deep.
Arguments are put in as they are: nothing in them is read as a template.

    expand args t          works from left to right and reports the first fault it meets
    pieces 0 t             the literal code points and fields of `t`, up to the first fault
-/

namespace DartComments

/-- What is wrong with a template, or with a field for the arguments at hand. -/
inductive TemplateError where
  | loneOpen
  | loneClose
  | openInField
  | unclosedField
  | unclosedLayout
  | noConversion
  | longConversion
  | unknownConversion (c : CodePoint)
  | tooDeep
  | tooManyDigits
  | emptyAttribute
  | unclosedIndex
  | strayAfterIndex
  | unknownArgument (name : Text)
  | positional (index : Nat)
  | indexOutOfRange
  | textIndex
  | itemOutOfRange
  | itemKey
  | noAttribute (title name : Text)
  | noItems (title : Text)
  | noLayout (kind : Text)
  | badLayout (layout : Text)
  | missingPrecision
  | separator (mark code : CodePoint)
  | bothSeparators
  | unknownCode (c : CodePoint)
  | sign
  | space
  | negativeZero
  | alternate
  | equalsAlignment
deriving DecidableEq

namespace TemplateError

/-- A code point in a message: itself when it is visible ASCII, else a hexadecimal escape. -/
def shown (c : CodePoint) (limit : Nat) : Text :=
  if 32 < c.toNat ∧ c.toNat < limit then [c] else "\\x" ++ Text.hex 1 c.toNat

def message : TemplateError → Text
  | .loneOpen => "Single '\x7b' encountered in format string"
  | .loneClose => "Single '\x7d' encountered in format string"
  | .openInField => "unexpected '\x7b' in field name"
  | .unclosedField => "expected '\x7d' before end of string"
  | .unclosedLayout => "unmatched '\x7b' in format spec"
  | .noConversion => "end of string while looking for conversion specifier"
  | .longConversion => "expected ':' after conversion specifier"
  | .unknownConversion c => "Unknown conversion specifier " ++ shown c 127
  | .tooDeep => "Max string recursion exceeded"
  | .tooManyDigits => "Too many decimal digits in format string"
  | .emptyAttribute => "Empty attribute in format string"
  | .unclosedIndex => "Missing ']' in format string"
  | .strayAfterIndex => "Only '.' or '[' may follow ']' in format field specifier"
  | .unknownArgument name => name.quoted
  | .positional i =>
    "Replacement index " ++ Text.ofNat i ++ " out of range for positional args tuple"
  | .indexOutOfRange => "string index out of range"
  | .textIndex => "string indices must be integers, not 'str'"
  | .itemOutOfRange => "tuple index out of range"
  | .itemKey => "tuple indices must be integers or slices, not str"
  | .noAttribute title name => title ++ " has no attribute '" ++ name ++ "'"
  | .noItems title => title ++ " is not subscriptable"
  | .noLayout kind => "unsupported format string passed to " ++ kind ++ ".__format__"
  | .badLayout t => "Invalid format specifier '" ++ t ++ "' for object of type 'str'"
  | .missingPrecision => "Format specifier missing precision"
  | .separator mark code => "Cannot specify '" ++ [mark] ++ "' with '" ++ shown code 128 ++ "'."
  | .bothSeparators => "Cannot specify both ',' and '_'."
  | .unknownCode c => "Unknown format code '" ++ shown c 128 ++ "' for object of type 'str'"
  | .sign => "Sign not allowed in string format specifier"
  | .space => "Space not allowed in string format specifier"
  | .negativeZero => "Negative zero coercion (z) not allowed in string format specifier"
  | .alternate => "Alternate form (#) not allowed in string format specifier"
  | .equalsAlignment => "'=' alignment not allowed in string format specifier"

end TemplateError

namespace Template

def openBrace : CodePoint := .char '\x7b'

def closeBrace : CodePoint := .char '\x7d'

/-! ## Fields -/

/-- A field: the path to its value, a conversion, a layout that may hold fields itself. -/
structure Field where
  path : Text
  conversion : Option CodePoint := none
  layout : Text := []
  nested : Bool := false
deriving DecidableEq

/-- What ends the path of a field. -/
inductive PathEnd where
  | close
  | conversion
  | layout

/-- The path of a field, what ends it, and the text after that. Between brackets every code
point belongs to the path. -/
def readPath (inBrackets : Bool) : Text → Except TemplateError (Text × PathEnd × Text)
  | [] => .error .unclosedField
  | c :: rest =>
    if inBrackets then do
      let (p, e, r) ← readPath (c ≠ .char ']') rest
      pure (c :: p, e, r)
    else if c = openBrace then .error .openInField
    else if c = closeBrace then .ok ([], .close, rest)
    else if c = .char ':' then .ok ([], .layout, rest)
    else if c = .char '!' then .ok ([], .conversion, rest)
    else do
      let (p, e, r) ← readPath (c = .char '[') rest
      pure (c :: p, e, r)

/-- A layout up to the brace that closes its field, and the text after that brace; `depth` braces
of the layout itself are open. -/
def readLayout (depth : Nat) : Text → Except TemplateError (Text × Text)
  | [] => .error .unclosedLayout
  | c :: rest =>
    if c = openBrace then do
      let (l, r) ← readLayout (depth + 1) rest
      pure (c :: l, r)
    else if c = closeBrace then
      match depth with
      | 0 => .ok ([], rest)
      | depth + 1 => do
        let (l, r) ← readLayout depth rest
        pure (c :: l, r)
    else do
      let (l, r) ← readLayout depth rest
      pure (c :: l, r)

/-- A field with its layout. -/
def readLaidOut (path : Text) (conversion : Option CodePoint) (t : Text) :
    Except TemplateError (Field × Text) := do
  let (layout, rest) ← readLayout 0 t
  pure (⟨path, conversion, layout, layout.contains openBrace⟩, rest)

/-- A field after its opening brace, and the text after its closing one. -/
def readField (t : Text) : Except TemplateError (Field × Text) := do
  let (path, e, rest) ← readPath false t
  match e, rest with
  | .close, _ => pure (⟨path, none, [], false⟩, rest)
  | .layout, _ => readLaidOut path none rest
  | .conversion, [] => .error .noConversion
  | .conversion, [_] => .error .unclosedLayout
  | .conversion, c :: d :: rest =>
    if d = closeBrace then pure (⟨path, some c, [], false⟩, rest)
    else if d = .char ':' then readLaidOut path (some c) rest
    else .error .longConversion

/-- A literal code point, a field, or the fault at which reading stops. -/
inductive Piece where
  | literal (c : CodePoint)
  | field (f : Field)
  | fault (e : TemplateError)
deriving DecidableEq

/-- The pieces of a template after its first `skip` code points. -/
def pieces : Nat → Text → List Piece
  | _, [] => []
  | skip + 1, _ :: rest => pieces skip rest
  | 0, c :: rest =>
    if c = openBrace then
      match rest with
      | [] => [.fault .loneOpen]
      | d :: _ =>
        if d = openBrace then .literal openBrace :: pieces 1 rest
        else match readField rest with
          | .error e => [.fault e]
          | .ok (f, after) => .field f :: pieces (rest.length - after.length) rest
    else if c = closeBrace then
      match rest with
      | [] => [.fault .loneClose]
      | d :: _ =>
        if d = closeBrace then .literal closeBrace :: pieces 1 rest else [.fault .loneClose]
    else .literal c :: pieces 0 rest

/-! ## Values -/

/-- The greatest number a template may spell. -/
def maxNumber : Nat := Nat.pow 2 63 - 1

/-- The number that a text spells when it holds digits only, given the number read so far. -/
def readIndex (n : Nat) : Text → Except TemplateError (Option Nat)
  | [] => .ok (some n)
  | c :: cs =>
    match c.digit? with
    | none => .ok none
    | some d => if maxNumber < n * 10 + d then .error .tooManyDigits else readIndex (n * 10 + d) cs

/-- One step from a value into it. -/
inductive Step where
  | member (name : Text)
  | index (i : Nat)
  | key (t : Text)
  | fault (e : TemplateError)

def isStepMark (c : CodePoint) : Bool := c = .char '.' || c = .char '['

/-- The step that a pair of brackets around `inner` makes. -/
def bracketStep (inner : Text) : Step :=
  if inner.isEmpty then .fault .emptyAttribute
  else match readIndex 0 inner with
    | .error e => .fault e
    | .ok (some i) => .index i
    | .ok none => .key inner

/-- The steps of a path after its first `skip` code points. -/
def steps : Nat → Text → List Step
  | _, [] => []
  | skip + 1, _ :: rest => steps skip rest
  | 0, c :: rest =>
    if c = .char '.' then
      let name := rest.takeWhile (! isStepMark ·)
      if name.isEmpty then [.fault .emptyAttribute] else .member name :: steps name.length rest
    else if c = .char '[' then
      let inner := rest.takeWhile (· ≠ .char ']')
      if inner.length = rest.length then [.fault .unclosedIndex]
      else bracketStep inner :: steps (inner.length + 1) rest
    else [.fault .strayAfterIndex]

/-- The part of a value that stands at an index. -/
def part (value : Value) (i : Nat) : Except TemplateError Value :=
  match value with
  | .text t =>
    match t[i]? with
    | some c => .ok (.text [c])
    | none => .error .indexOutOfRange
  | .sequence items =>
    match items[i]? with
    | some v => .ok v
    | none => .error .itemOutOfRange
  | .kind k => parameterise k (Text.ofNat i)
  | v => .error (.noItems v.title)
where
  /-- Kinds of values with parts, and the kind of kinds, take a parameter. -/
  parameterise (k : Kind) (parameter : Text) : Except TemplateError Value :=
    if k = .kind || k = .sequence then .ok (.parameterised k parameter)
    else .error (.noItems ("type '" ++ k.name ++ "'"))

/-- The part of a value that is asked for by another text than an index. -/
def keyedPart (value : Value) (key : Text) : Except TemplateError Value :=
  match value with
  | .text _ => .error .textIndex
  | .sequence _ => .error .itemKey
  | .kind k => part.parameterise k key.quoted
  | v => .error (.noItems v.title)

/-- What a value has under a name. -/
def possession (value : Value) (name : Text) : Except TemplateError Value :=
  match value.attribute? name with
  | some v => .ok v
  | none => .error (.noAttribute value.title name)

/-- Follows the steps from a value. -/
def follow (value : Value) : List Step → Except TemplateError Value
  | [] => .ok value
  | step :: rest => do
    let next ← match step with
      | .fault e => .error e
      | .member name => possession value name
      | .key t => keyedPart value t
      | .index i => part value i
    follow next rest

/-- Named arguments. -/
abbrev Arguments := List (Text × Text)

/-- The argument that a path starts from. There are no positional ones. -/
def argument (args : Arguments) (first : Text) : Except TemplateError Text :=
  if first.isEmpty then .error (.positional 0)
  else do
    match ← readIndex 0 first with
    | some i => .error (.positional i)
    | none =>
      match args.lookup first with
      | some v => pure v
      | none => .error (.unknownArgument first)

/-- The value at the end of a path. -/
def valueAt (args : Arguments) (path : Text) : Except TemplateError Value := do
  let first := path.takeWhile (! isStepMark ·)
  let v ← argument args first
  follow (.text v) (steps 0 (path.drop first.length))

def convert (value : Value) : Option CodePoint → Except TemplateError Value
  | none => .ok value
  | some (.char 's') => .ok (.text value.shown)
  | some (.char 'r') => .ok (.text value.quoted)
  | some (.char 'a') => .ok (.text value.quotedAscii)
  | some c => .error (.unknownConversion c)

/-! ## Layouts -/

/-- How a value is laid out. -/
structure Layout where
  fill : CodePoint := .char ' '
  align : CodePoint := .char '<'
  sign : Option CodePoint := none
  negativeZero : Bool := false
  alternate : Bool := false
  width : Option Nat := none
  separator : Option CodePoint := none
  precision : Option Nat := none
  code : CodePoint := .char 's'

def isAlign (c : CodePoint) : Bool :=
  c = .char '<' || c = .char '>' || c = .char '=' || c = .char '^'

def isSign (c : CodePoint) : Bool := c = .char ' ' || c = .char '+' || c = .char '-'

/-- A fill and an alignment, an alignment alone, or neither. -/
def readAlign : Text → Option CodePoint × Option CodePoint × Text
  | [] => (none, none, [])
  | [a] => if isAlign a then (none, some a, []) else (none, none, [a])
  | f :: a :: rest =>
    if isAlign a then (some f, some a, rest)
    else if isAlign f then (none, some f, a :: rest)
    else (none, none, f :: a :: rest)

/-- Takes the code point at the head if it is the one asked for. -/
def takeMark (mark : CodePoint) : Text → Bool × Text
  | [] => (false, [])
  | c :: rest => if c = mark then (true, rest) else (false, c :: rest)

/-- The digits at the head as a number, if there are any, given the number read so far. -/
def readWidth (n : Option Nat) : Text → Except TemplateError (Option Nat × Text)
  | [] => .ok (n, [])
  | c :: rest =>
    match c.digit? with
    | none => .ok (n, c :: rest)
    | some d =>
      let m := n.getD 0 * 10 + d
      if maxNumber < m then .error .tooManyDigits else readWidth (some m) rest

/-- A comma or an underscore, not both. -/
def readSeparator (t : Text) : Except TemplateError (Option CodePoint × Text) :=
  let (comma, t) := takeMark (.char ',') t
  let (underscore, t) := takeMark (.char '_') t
  if underscore && (comma || (takeMark (.char ',') t).1) then .error .bothSeparators
  else if comma then .ok (some (.char ','), t)
  else if underscore then .ok (some (.char '_'), t)
  else .ok (none, t)

/-- A point and digits, or nothing. -/
def readPrecision (t : Text) : Except TemplateError (Option Nat × Text) :=
  match takeMark (.char '.') t with
  | (false, t) => .ok (none, t)
  | (true, t) => do
    match ← readWidth none t with
    | (none, _) => .error .missingPrecision
    | r => pure r

/-- May numbers laid out with this code be grouped with this separator? -/
def groups (mark code : CodePoint) : Bool :=
  (Text.ofString "defgEG%F\x00").contains code ||
    (mark = .char '_' && (Text.ofString "boxX").contains code)

/-- Reads a layout. -/
def readLayoutText (spec : Text) : Except TemplateError Layout := do
  let (fill, align, t) := readAlign spec
  let (sign, t) := match t with
    | c :: rest => if isSign c then (some c, rest) else (none, t)
    | [] => (none, [])
  let (negativeZero, t) := takeMark (.char 'z') t
  let (alternate, t) := takeMark (.char '#') t
  let (padded, t) := if fill.isSome then (false, t) else takeMark (.char '0') t
  let (width, t) ← readWidth none t
  let (separator, t) ← readSeparator t
  let (precision, t) ← readPrecision t
  let code ← match t with
    | [] => pure (CodePoint.char 's')
    | [c] => pure c
    | _ => .error (.badLayout spec)
  match separator with
  | some mark => if groups mark code then pure () else .error (.separator mark code)
  | none => pure ()
  pure { fill := fill.getD (.char (if padded then '0' else ' ')), align := align.getD (.char '<'),
         sign, negativeZero, alternate, width, separator, precision, code }

/-- Cuts a text to the precision and fills it up to the width. -/
def Layout.apply (l : Layout) (value : Text) : Text :=
  let cut := match l.precision with
    | some p => value.take p
    | none => value
  let gap := l.width.getD 0 - cut.length
  let left := if l.align = .char '>' then gap else if l.align = .char '^' then gap / 2 else 0
  List.replicate left l.fill ++ cut ++ List.replicate (gap - left) l.fill

/-- Lays out a text; signs, groups of digits and the like are for numbers. -/
def layOut (spec value : Text) : Except TemplateError Text :=
  if spec.isEmpty then .ok value
  else do
    let l ← readLayoutText spec
    if l.code ≠ .char 's' then .error (.unknownCode l.code)
    else if l.sign = some (.char ' ') then .error .space
    else if l.sign.isSome then .error .sign
    else if l.negativeZero then .error .negativeZero
    else if l.alternate then .error .alternate
    else if l.align = .char '=' then .error .equalsAlignment
    else pure (l.apply value)

/-- The text of a value in a layout. -/
def render (spec : Text) (value : Value) : Except TemplateError Text :=
  match value with
  | .text t => layOut spec t
  | v => if spec.isEmpty then .ok v.shown else .error (.noLayout v.kindOf.name)

/-! ## Expansion -/

/-- Puts the text of each piece after the other, with `field` for the fields. -/
def concat (field : Field → Except TemplateError Text) : List Piece → Except TemplateError Text
  | [] => .ok []
  | .fault e :: _ => .error e
  | .literal c :: rest => do
    let t ← concat field rest
    pure (c :: t)
  | .field f :: rest => do
    let v ← field f
    let t ← concat field rest
    pure (v ++ t)

/-- Fills in a template; the first argument bounds how deep fields stand in layouts. -/
def expandDeep (args : Arguments) : Nat → Text → Except TemplateError Text
  | 0, _ => .error .tooDeep
  | depth + 1, t =>
    concat (fun f => do
      let v ← valueAt args f.path
      let v ← convert v f.conversion
      let spec ← if f.nested then expandDeep args depth f.layout else pure f.layout
      render spec v) (pieces 0 t)

/-- Fills in a template. -/
def expand (args : Arguments) (t : Text) : Except TemplateError Text := expandDeep args 2 t

end Template

end DartComments
