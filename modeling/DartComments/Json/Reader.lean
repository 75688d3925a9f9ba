import DartComments.Json.Basic
import DartComments.Number.Reading
import DartComments.Text.Wide

/-!
# Reading JSON

The grammar of RFC 8259 with three words more, `NaN`, `Infinity` and `-Infinity`. Blank are the
space, the tabulator, line feed and carriage return. Control characters must not stand in a string.
Of fields with the same key the last one counts. An escape may name a lone surrogate; two escapes
that form a pair are one character. Whole numbers have at most 4300 digits.
-/

namespace DartComments

namespace Json

/-! ## Lexemes -/

def isGap (c : CodePoint) : Bool :=
  c = .char ' ' || c = .char '\t' || c = .char '\n' || c = .char '\r'

def skipGap (t : Text) : Text := t.dropWhile isGap

/-- The number that four hexadecimal digits spell. -/
def hex4? (a b c d : CodePoint) : Option Nat := do
  let a ← CodePoint.hexDigit? a
  let b ← CodePoint.hexDigit? b
  let c ← CodePoint.hexDigit? c
  let d ← CodePoint.hexDigit? d
  pure (((a * 16 + b) * 16 + c) * 16 + d)

/-- The code point of an escape of one character. -/
def shortEscape? : CodePoint → Option CodePoint
  | .char '\x22' => some (.char '\x22')
  | .char '\\' => some (.char '\\')
  | .char '/' => some (.char '/')
  | .char 'b' => some (.char '\x08')
  | .char 'f' => some (.char '\x0c')
  | .char 'n' => some (.char '\n')
  | .char 'r' => some (.char '\r')
  | .char 't' => some (.char '\t')
  | _ => none

/-- A piece of a string: a code point, or the number of a four-digit escape. -/
inductive Piece where
  | plain (c : CodePoint)
  | code (n : Nat)

/-- The text of the pieces; two escapes in a row that form a pair are one character. -/
def joinPieces : List Piece → Text
  | [] => []
  | .code hi :: .code lo :: rest =>
    if Wide.isHigh hi && Wide.isLow lo then
      CodePoint.ofNat (Wide.pairValue hi lo) :: joinPieces rest
    else CodePoint.ofNat hi :: joinPieces (.code lo :: rest)
  | .code n :: rest => CodePoint.ofNat n :: joinPieces rest
  | .plain c :: rest => c :: joinPieces rest

/-- Puts a piece in front of those that have been read. -/
def consPiece (p : Piece) (r : List Piece × Text) : List Piece × Text := (p :: r.1, r.2)

/-- The pieces of a string after its opening mark, and what follows its closing mark. -/
def readPieces? : Text → Option (List Piece × Text)
  | [] => none
  | .char '\\' :: .char 'u' :: a :: b :: c :: d :: rest =>
    match hex4? a b c d with
    | some n => (readPieces? rest).map (consPiece (.code n))
    | none => none
  | .char '\\' :: e :: rest =>
    match shortEscape? e with
    | some c => (readPieces? rest).map (consPiece (.plain c))
    | none => none
  | c :: rest =>
    if c = .char '\x22' then some ([], rest)
    else if c = .char '\\' || c.toNat < 0x20 then none
    else (readPieces? rest).map (consPiece (.plain c))

/-- The rest of a string after its opening mark, and what follows its closing mark. -/
def readString? (t : Text) : Option (Text × Text) :=
  (readPieces? t).map fun r => (joinPieces r.1, r.2)

/-- What follows `word` when the text starts with it. -/
def afterWord? : List Char → Text → Option Text
  | [], t => some t
  | w :: ws, c :: cs => if c = .char w then afterWord? ws cs else none
  | _ :: _, [] => none

/-- The fraction of a number: its digits, or none when no point with a digit follows. -/
def readFraction : Text → Option (List Nat) × Text
  | .char '.' :: rest =>
    match Number.spanDigits rest with
    | ([], _) => (none, .char '.' :: rest)
    | (ds, rest) => (some ds, rest)
  | t => (none, t)

/-- The exponent of a number, or none when no mark with digits follows. -/
def readPower : Text → Option Int × Text
  | [] => (none, [])
  | c :: cs =>
    if c = .char 'e' || c = .char 'E' then
      let (negative, digits) := Number.splitSign cs
      match Number.spanDigits digits with
      | ([], _) => (none, c :: cs)
      | (ds, rest) =>
        let n := Text.ofDigitValues ds
        (some (if negative then -(n : Int) else n), rest)
    else (none, c :: cs)

/-- The digits before the point: a zero stands alone. -/
def readWhole : Text → List Nat × Text
  | .char '0' :: rest => ([0], rest)
  | t => Number.spanDigits t

/-- A number, and what follows it. -/
def readNumber? (t : Text) : Option (Json × Text) :=
  let (negative, t) := match t with
    | .char '-' :: t => (true, t)
    | t => (false, t)
  match readWhole t with
  | ([], _) => none
  | (whole, t) =>
    let (fraction, t) := readFraction t
    let (power, t) := readPower t
    match fraction, power with
    | none, none =>
      if Number.digitLimit < whole.length then none
      else
        let n := Text.ofDigitValues whole
        some (.int (if negative then -(n : Int) else n), t)
    | _, _ =>
      let part := fraction.getD []
      some (.float (Double.ofDecimal negative (Text.ofDigitValues (whole ++ part))
        (power.getD 0 - part.length)), t)

/-- A word or a number, and what follows it. -/
def readScalar? (t : Text) : Option (Json × Text) :=
  let words : List (List Char × Json) :=
    [(['n', 'u', 'l', 'l'], .null), (['t', 'r', 'u', 'e'], .bool true),
      (['f', 'a', 'l', 's', 'e'], .bool false), (['N', 'a', 'N'], .float .nan),
      (['I', 'n', 'f', 'i', 'n', 'i', 't', 'y'], .float (.infinite false)),
      (['-', 'I', 'n', 'f', 'i', 'n', 'i', 't', 'y'], .float (.infinite true))]
  match words.findSome? fun (w, v) => (afterWord? w t).map fun rest => (v, rest) with
  | some r => some r
  | none => readNumber? t

/-! ## Values -/

mutual

/-- A value at the head of the text, and what follows it. The first argument bounds the depth. -/
def readValue? : Nat → Text → Option (Json × Text)
  | 0, _ => none
  | fuel + 1, t =>
    match t with
    | .char '\x22' :: rest => (readString? rest).map fun r => (.str r.1, r.2)
    | .char '[' :: rest =>
      match skipGap rest with
      | .char ']' :: rest => some (.arr [], rest)
      | rest => (readItems? fuel rest).map fun r => (.arr r.1, r.2)
    | .char '\x7b' :: rest =>
      match skipGap rest with
      | .char '\x7d' :: rest => some (.obj [], rest)
      | rest => (readFields? fuel [] rest).map fun r => (.obj r.1, r.2)
    | t => readScalar? t

/-- Items up to the closing bracket, at least one. -/
def readItems? : Nat → Text → Option (List Json × Text)
  | 0, _ => none
  | fuel + 1, t => do
    let (v, rest) ← readValue? fuel t
    match skipGap rest with
    | .char ',' :: rest =>
      let (vs, rest) ← readItems? fuel (skipGap rest)
      pure (v :: vs, rest)
    | .char ']' :: rest => pure ([v], rest)
    | _ => none

/-- Fields up to the closing brace, at least one, added to those read before. -/
def readFields? : Nat → List (Text × Json) → Text → Option (List (Text × Json) × Text)
  | 0, _, _ => none
  | fuel + 1, fields, t => do
    let .char '\x22' :: rest := t | none
    let (key, rest) ← readString? rest
    let .char ':' :: rest := skipGap rest | none
    let (v, rest) ← readValue? fuel (skipGap rest)
    let fields := setField key v fields
    match skipGap rest with
    | .char ',' :: rest => readFields? fuel fields (skipGap rest)
    | .char '\x7d' :: rest => pure (fields, rest)
    | _ => none

end

/-- The value that a text spells, blanks around it apart. -/
def read? (t : Text) : Option Json := do
  let (v, rest) ← readValue? (2 * t.length + 2) (skipGap t)
  if (skipGap rest).isEmpty then some v else none

end Json

end DartComments
