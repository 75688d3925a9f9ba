import DartComments.Number.Double
import DartComments.Text.Basic

/-!
# The shortest decimal of a number

`shortest m e` is the decimal with the fewest digits among those that round to `m * 2 ^ e`, and
of these the nearest. For one digit, two digits, up to seventeen, the two neighbours of the value
on that decimal grid are tried against the interval of reals that round to it; the ends belong to
the interval when the mantissa is even.

`Double.text` writes it positionally when the first digit stands at most sixteen places before the
point or three zeros after it, and with an exponent of two digits or more otherwise.
-/

namespace DartComments

namespace Double

/-- Compares `a * 10 ^ p` with `b * 2 ^ q`. -/
def compareDecimal (a : Nat) (p : Int) (b : Nat) (q : Int) : Ordering :=
  compare (a * Nat.pow 10 p.toNat * Nat.pow 2 (-q).toNat)
    (b * Nat.pow 2 q.toNat * Nat.pow 10 (-p).toNat)

/-- The lower and upper end of the interval that rounds to `m * 2 ^ e`, in quarters of `2 ^ e`. -/
def interval (m : Nat) (e : Int) : Nat × Nat :=
  (if m = Nat.pow 2 52 ∧ minExponent < e then 4 * m - 1 else 4 * m - 2, 4 * m + 2)

/-- Does `d * 10 ^ p` round to `m * 2 ^ e`? -/
def roundsTo (m : Nat) (e : Int) (d : Nat) (p : Int) : Bool :=
  let (lo, hi) := interval m e
  let ends := m % 2 = 0
  (match compareDecimal d p lo (e - 2) with
    | .gt => true
    | .eq => ends
    | .lt => false) &&
  (match compareDecimal d p hi (e - 2) with
    | .lt => true
    | .eq => ends
    | .gt => false)

/-- The number of places of `m * 2 ^ e` before the point; zero or less below one tenth. -/
def places (m : Nat) (e : Int) : Int :=
  let k := ((m.log2 : Int) + e) * 30103 / 100000
  if compareDecimal 1 k m e = .gt then k
  else if compareDecimal 1 (k + 1) m e = .gt then k + 1
  else k + 2

/-- The greatest `d` for which `d * 10 ^ p` is at most `m * 2 ^ e`. -/
def below (m : Nat) (e p : Int) : Nat :=
  (m * Nat.pow 2 e.toNat * Nat.pow 10 (-p).toNat) /
    (Nat.pow 10 p.toNat * Nat.pow 2 (-e).toNat)

/-- Is `d + 1` nearer than `d` to `m * 2 ^ e` on the grid `10 ^ p`? A tie goes to the even one. -/
def upperIsNearer (m : Nat) (e : Int) (d : Nat) (p : Int) : Bool :=
  match compareDecimal (2 * d + 1) p (2 * m) e with
  | .lt => true
  | .eq => d % 2 = 1
  | .gt => false

/-- The decimal of `n` digits nearest to `m * 2 ^ e` that rounds to it, if there is one. -/
def onGrid? (m : Nat) (e : Int) (n : Nat) : Option (Nat × Int) :=
  let p := places m e - n
  let d := below m e p
  match roundsTo m e d p, roundsTo m e (d + 1) p with
  | true, true => some (if upperIsNearer m e d p then d + 1 else d, p)
  | true, false => some (d, p)
  | false, true => some (d + 1, p)
  | false, false => none

/-- Digits and power of ten of the shortest decimal of `m * 2 ^ e`, for a positive `m`. -/
def shortest (m : Nat) (e : Int) : Nat × Int :=
  match ((List.range 17).map (· + 1)).findSome? (onGrid? m e) with
  | some r => r
  | none => (below m e (places m e - 17), places m e - 17)

/-- The digits of a number without the zeros at its end. -/
def significant (n : Nat) : List Char :=
  ((Nat.toDigits 10 n).reverse.dropWhile (· == '0')).reverse

/-- The exponent's sign and at least two digits. -/
def exponentText (x : Int) : Text :=
  let ds := Nat.toDigits 10 x.natAbs
  .char (if x < 0 then '-' else '+') ::
    Text.ofChars (List.replicate (2 - ds.length) '0' ++ ds)

/-- Digits `ds`, the point standing before digit number `point`. -/
def layout (ds : List Char) (point : Int) : Text :=
  if -4 < point ∧ point ≤ 16 then
    if point ≤ 0 then "0." ++ Text.ofChars (List.replicate (-point).toNat '0' ++ ds)
    else
      let whole := ds.take point.toNat
      let part := ds.drop point.toNat
      Text.ofChars (whole ++ List.replicate (point.toNat - whole.length) '0') ++ "." ++
        Text.ofChars (if part.isEmpty then ['0'] else part)
  else
    let part : Text := if ds.length ≤ 1 then [] else .char '.' :: Text.ofChars (ds.drop 1)
    Text.ofChars (ds.take 1) ++ part ++ "e" ++ exponentText (point - 1)

/-- The shortest text that reads back as the same number. -/
def text : Double → Text
  | .nan => "nan"
  | .infinite negative => if negative then "-inf" else "inf"
  | .finite negative m e =>
    let sign : Text := if negative then "-" else []
    if m = 0 then sign ++ "0.0"
    else
      let (d, p) := shortest m e
      sign ++ layout (significant d) ((Nat.toDigits 10 d).length + p)

end Double

end DartComments
