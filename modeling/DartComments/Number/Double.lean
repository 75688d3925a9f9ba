/-!
# Binary floating point

Double-precision numbers as exact values: a finite one is `mantissa * 2 ^ exponent`. Quotients
and decimals are rounded to the nearest of them, a tie to the even mantissa, by arithmetic on
natural numbers alone.
-/

namespace DartComments

/-- A double-precision number. A finite one has a mantissa below `2 ^ 53` and an exponent from
`-1074` on, and a mantissa of at least `2 ^ 52` unless the exponent is `-1074`. -/
inductive Double where
  | nan
  | infinite (negative : Bool)
  | finite (negative : Bool) (mantissa : Nat) (exponent : Int)
deriving DecidableEq

namespace Double

/-- The least exponent. -/
def minExponent : Int := -1074

/-- The greatest exponent of a finite number. -/
def maxExponent : Int := 971

def zero (negative : Bool) : Double := .finite negative 0 minExponent

def isFinite : Double → Bool
  | .finite .. => true
  | _ => false

/-- Neither zero nor its negative. -/
def isNonzero : Double → Bool
  | .finite _ m _ => m != 0
  | _ => true

/-- The quotient rounded to the nearest integer, a half to the even one. -/
def divRound (num den : Nat) : Nat :=
  let q := num / den
  let r := num % den
  if 2 * r < den then q else if den < 2 * r then q + 1 else if q % 2 = 0 then q else q + 1

/-- Numerator and denominator of `num / den / 2 ^ e`. -/
def scaled (num den : Nat) (e : Int) : Nat × Nat :=
  if 0 ≤ e then (num, den * Nat.pow 2 e.toNat) else (num * Nat.pow 2 (-e).toNat, den)

/-- The exponent at which `num / den` has 53 bits, or the least one. -/
def exponentFor (num den : Nat) : Int :=
  let e : Int := (num.log2 : Int) - den.log2 - 53
  let (n, d) := scaled num den e
  max minExponent (if n / d < Nat.pow 2 53 then e else e + 1)

/-- The number nearest to `num / den`. -/
def ofRatio (negative : Bool) (num den : Nat) : Double :=
  if num = 0 then zero negative
  else
    let e := exponentFor num den
    let (n, d) := scaled num den e
    let m := divRound n d
    let (m, e) := if m = Nat.pow 2 53 then (Nat.pow 2 52, e + 1) else (m, e)
    if maxExponent < e then .infinite negative else .finite negative m e

/-- The number nearest to `digits * 10 ^ exponent`. Decimals that are far out of range are
settled by the place of their first digit. -/
def ofDecimal (negative : Bool) (digits : Nat) (exponent : Int) : Double :=
  if digits = 0 then zero negative
  else
    let place : Int := (Nat.toDigits 10 digits).length + exponent
    if 400 < place then .infinite negative
    else if place < -400 then zero negative
    else if 0 ≤ exponent then ofRatio negative (digits * Nat.pow 10 exponent.toNat) 1
    else ofRatio negative digits (Nat.pow 10 (-exponent).toNat)

end Double

end DartComments
