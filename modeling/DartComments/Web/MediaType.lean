import DartComments.Charset.Basic
import DartComments.Number.Reading
import DartComments.Text.Blank
import DartComments.Text.Quoted
import DartComments.Web.Percent

/-!
# Parameters of a content type

A content type is a list of parts with semicolons between them, of which all but the first should be
parameters, a name and a value. A value may be quoted. It may also be cut in pieces, which are named
`name*0`, `name*1` and so on, and be written with escapes, which a star at the end of the name
tells. Escapes stand for bytes, in a charset that the value names before two ticks.

    text/plain; charset="utf-8"
    text/plain; charset*0=lat; charset*1=in-1
    text/plain; charset*=utf-16le''u%00t%00f%00-%008%00
-/

namespace DartComments

namespace MediaType

/-! ## Parts -/

/-- The parts between semicolons, those in quotes apart. `inside` tells whether a quote is open, and
`before` is the code point just before. -/
def splitParts (inside : Bool) (before : CodePoint) : Text → List Text
  | [] => [[]]
  | c :: rest =>
    if c = .char ';' && !inside then [] :: splitParts false (.char ' ') rest
    else
      let isQuote := c = Text.doubleMark && before ≠ .char '\\'
      match splitParts (inside != isQuote) c rest with
      | part :: others => (c :: part) :: others
      | [] => [[c]]

structure Parameter where
  name : Text
  value : Text

/-- A part as a parameter. Without an equals sign its value is empty, and the case of its name is
kept. -/
def Parameter.ofPart (part : Text) : Parameter :=
  let name := part.takeWhile (· ≠ .char '=')
  if part.contains (.char '=') then
    ⟨(Text.strip name).toLowerAscii, Text.strip (part.drop (name.length + 1))⟩
  else ⟨Text.strip name, []⟩

/-- Drops the backslash before each `mark`. -/
def dropEscapes (mark : CodePoint) : Text → Text
  | c :: d :: rest =>
    if c = .char '\\' && d = mark then mark :: dropEscapes mark rest
    else c :: dropEscapes mark (d :: rest)
  | t => t

/-- A value without the quotes or the angle brackets around it. -/
def unquote (t : Text) : Text :=
  match t, t.getLast? with
  | c :: _ :: _, some last =>
    let inner := (t.drop 1).dropLast
    if c = Text.doubleMark && last = Text.doubleMark then
      dropEscapes Text.doubleMark (dropEscapes (.char '\\') inner)
    else if c = .char '<' && last = .char '>' then inner
    else t
  | _, _ => t

/-! ## What cannot be read -/

/-- Why a content type cannot be read. -/
inductive Unreadable where
  /-- A value has pieces with numbers and pieces without, so that they have no order. -/
  | unordered (numberedFirst : Bool)
  /-- The number of a piece has too many digits. -/
  | longNumber (digits : Nat)
  /-- Bytes cannot be read in the charset of this name. -/
  | charset (name : Text) (e : CharsetError)
deriving DecidableEq

def Unreadable.message : Unreadable → Text
  | .unordered numberedFirst =>
    let kinds : Text := if numberedFirst then "'NoneType' and 'int'" else "'int' and 'NoneType'"
    "'<' not supported between instances of " ++ kinds
  | .longNumber digits =>
    "Exceeds the limit (" ++ Text.ofNat Number.digitLimit ++
      " digits) for integer string conversion: value has " ++ Text.ofNat digits ++
      " digits; use sys.set_int_max_str_digits() to increase the limit"
  | .charset _ .zeroInName => CharsetError.zeroInName.message
  | .charset name e =>
    "decoding with '" ++ name ++ "' codec failed (RuntimeError: " ++ e.message ++ ")"

/-! ## Values in pieces -/

/-- A piece of a value: the name of the whole, the number if there is one, the text, and whether it
has escapes. -/
structure Piece where
  owner : Text
  number : Option Nat
  value : Text
  escaped : Bool

/-- Letters, digits and the low line. -/
def isNamePart : CodePoint → Bool
  | .char c => c.isAlphanum || c = '_'
  | .surrogate _ => false

/-- The piece that a parameter is, if it is one. -/
def Piece.of (p : Parameter) : Except Unreadable (Option Piece) :=
  let owner := p.name.takeWhile isNamePart
  let after := p.name.drop owner.length
  let digits := (after.drop 1).takeWhile (·.asciiDigit?.isSome)
  let number := Text.ofDigitValues (digits.filterMap CodePoint.asciiDigit?)
  let rest := after.drop (digits.length + 1)
  if owner.isEmpty || after.head? ≠ some (.char '*') then .ok none
  else if digits.isEmpty then
    .ok (if rest.isEmpty then some ⟨owner, none, unquote p.value, true⟩ else none)
  else if !rest.isEmpty && rest ≠ [.char '*'] then .ok none
  else if Number.digitLimit < digits.length then .error (.longNumber digits.length)
  else .ok (some ⟨owner, some number, unquote p.value, !rest.isEmpty⟩)

/-- Pieces stand in the order of their numbers; those with one number, in the order of their
texts. -/
def Piece.le (a b : Piece) : Bool :=
  let x := a.value.map CodePoint.toNat
  let y := b.value.map CodePoint.toNat
  if a.number ≠ b.number then a.number.getD 0 < b.number.getD 0
  else if x ≠ y then x.lex y
  else !a.escaped || b.escaped

/-- The text of a piece, an escape being the code point of that number. -/
def Piece.text (p : Piece) : Text :=
  if p.escaped then (Percent.bytesFrom 0 p.value).map fun b => CodePoint.ofNat b.toNat else p.value

/-- The value of a parameter, and the charset of its escapes if it can have them. -/
structure Value where
  text : Text
  charset : Option Text

/-- What follows the second tick, if there are two. Charset and language stand before it. -/
def Value.ofEscaped (t : Text) : Value :=
  match t.splitOn Text.singleMark with
  | charset :: _ :: part :: parts => ⟨Text.join [Text.singleMark] (part :: parts), charset⟩
  | _ => ⟨t, some []⟩

/-- The value of pieces. -/
def joined (pieces : List Piece) : Value :=
  let t := (pieces.mergeSort Piece.le).flatMap Piece.text
  if pieces.any Piece.escaped then .ofEscaped t else ⟨t, none⟩

/-- Have all the pieces of each value an order? -/
def checkOrder (pieces : List Piece) : Except Unreadable Unit :=
  (pieces.map Piece.owner).eraseDups.forM fun owner =>
    let numbered := (pieces.filter (·.owner = owner)).map (·.number.isSome)
    if numbered.eraseDups.length = 2 then .error (.unordered (numbered.head?.getD false))
    else .ok ()

/-- A backslash before each backslash and each quote mark. -/
def escapeMarks (t : Text) : Text :=
  t.flatMap fun c => if c = .char '\\' || c = Text.doubleMark then [.char '\\', c] else [c]

/-- The text of a value. Where its bytes have no meaning in their charset, or that is unknown, they
are code points of that number. -/
def Value.read (v : Value) : Except Unreadable Text :=
  match v.charset with
  | none | some [] => .ok v.text
  | some name => do
    let name := escapeMarks name
    match ← (Charset.ofName name).mapError (.charset name) with
    | none => pure v.text
    | some charset =>
      let text ← (charset.decodeStrict (v.text.map (·.toNat.toUInt8))).mapError (.charset name)
      pure (text.getD v.text)

/-! ## Charset -/

/-- The value of a parameter: of the first that is whole, or else of the pieces behind the first
part. -/
def parameter? (name contentType : Text) : Except Unreadable (Option Value) := do
  let parameters := (splitParts false (.char ' ') contentType).map Parameter.ofPart
  let pieces := (← (parameters.drop 1).mapM Piece.of).filterMap id
  checkOrder pieces
  let own := pieces.filter (·.owner.toLowerAscii = name)
  match parameters.find? (·.name.toLowerAscii = name), own with
  | some p, _ => pure (some ⟨unquote p.value, none⟩)
  | none, [] => pure none
  | none, first :: _ => pure (some (joined (own.filter (·.owner = first.owner))))

/-- The charset that a content type names. -/
def charset? (contentType : Text) : Except Unreadable (Option Text) := do
  match ← parameter? "charset" contentType with
  | none => pure none
  | some value =>
    let name ← value.read
    pure (if name.all CodePoint.isAscii then some name else none)

end MediaType

end DartComments
