import DartComments.Number.Double
import DartComments.Text.Digit

/-!
# Numbers in settings

Settings spell numbers with an optional sign and decimal digits of any script, where a single
underscore may stand between two digits. Integers have at most 4300 digits. Floating-point numbers
may have a point and an exponent, or be one of the words `inf`, `infinity` and `nan` in any case.
-/

namespace DartComments

namespace Number

/-- The most digits an integer may have. -/
def digitLimit : Nat := 4300

/-- An optional sign: is it negative, and what follows. -/
def splitSign : Text → Bool × Text
  | .char '-' :: t => (true, t)
  | .char '+' :: t => (false, t)
  | t => (false, t)

/-- The digit values of a text of digits and single underscores between them. `afterDigit` says
whether a digit stands just before. -/
def groupedDigits? (afterDigit : Bool) : Text → Option (List Nat)
  | [] => if afterDigit then some [] else none
  | c :: cs =>
    match c.digit? with
    | some d => (groupedDigits? true cs).map (d :: ·)
    | none => if c = .char '_' && afterDigit then groupedDigits? false cs else none

/-- The integer that a text spells. -/
def readInt? (t : Text) : Option Int :=
  let (negative, t) := splitSign t
  match groupedDigits? false t with
  | some ds =>
    if digitLimit < ds.length then none
    else
      let n := Text.ofDigitValues ds
      some (if negative then -(n : Int) else n)
  | none => none

/-- Digits of any script as `0` to `9`. -/
def asciiDigits (t : Text) : Text :=
  t.map fun c => match c.digit? with
    | some d => CodePoint.ofNat (48 + d)
    | none => c

/-- The text without its underscores, if each of them stands between two digits. `before` is the
code point just before. -/
def dropUnderscores? (before : CodePoint) : Text → Option Text
  | [] => if before = .char '_' then none else some []
  | c :: cs =>
    if c = .char '_' then
      if before.asciiDigit?.isSome then dropUnderscores? c cs else none
    else if before = .char '_' && c.asciiDigit?.isNone then none
    else (dropUnderscores? c cs).map (c :: ·)

/-- The leading digits `0` to `9` of a text, and the rest. -/
def spanDigits : Text → List Nat × Text
  | [] => ([], [])
  | c :: cs =>
    match c.asciiDigit? with
    | some d => let (ds, rest) := spanDigits cs; (d :: ds, rest)
    | none => ([], c :: cs)

/-- The exponent mark, sign and digits that end a number, or nothing at all. -/
def readExponent? : Text → Option Int
  | [] => some 0
  | c :: cs =>
    if c = .char 'e' || c = .char 'E' then
      let (negative, cs) := splitSign cs
      match spanDigits cs with
      | (d :: ds, []) =>
        let n := Text.ofDigitValues (d :: ds)
        some (if negative then -(n : Int) else n)
      | _ => none
    else none

/-- A decimal without its sign: digits, perhaps a point among them, perhaps an exponent. -/
def readDecimal? (negative : Bool) (t : Text) : Option Double :=
  let (whole, rest) := spanDigits t
  let (part, rest) := match rest with
    | .char '.' :: rest => spanDigits rest
    | rest => ([], rest)
  if whole.isEmpty && part.isEmpty then none
  else
    (readExponent? rest).map fun e =>
      Double.ofDecimal negative (Text.ofDigitValues (whole ++ part)) (e - part.length)

/-- The number that a text spells, read as a floating-point number. -/
def readDouble? (t : Text) : Option Double := do
  let t ← dropUnderscores? (.char ' ') (asciiDigits t)
  let (negative, t) := splitSign t
  let word := Text.toLowerAscii t
  if word = Text.ofString "inf" || word = Text.ofString "infinity" then
    some (.infinite negative)
  else if word = Text.ofString "nan" then some .nan
  else readDecimal? negative t

end Number

end DartComments
