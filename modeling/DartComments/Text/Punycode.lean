import DartComments.Text.Basic

/-!
# Punycode

A text of any code points as ASCII. The ASCII code points come first, as they are; after a hyphen
follow the others, in ascending order, as numbers that tell how far the decoder has to go on through
all places and all code points until it inserts the next one. The numbers are written with letters
and digits, the least digit first, and how many digits suffice is learnt from the numbers before.
-/

namespace DartComments

namespace Punycode

/-- Below this value digit number `k` ends a number. -/
def threshold (bias k : Nat) : Nat := max 1 (min 26 (36 * (k + 1) - bias))

theorem threshold_pos (bias k : Nat) : 0 < threshold bias k := by
  unfold threshold; omega

/-- Divides by 35 until a number is small; `k` counts the divisions in steps of 36. -/
def shrink (n k : Nat) : Nat × Nat :=
  if 455 < n then shrink (n / 35) (k + 36) else (n, k)
termination_by n

/-- The bias after a number, when the text has `length` code points. -/
def adapt (delta length : Nat) (first : Bool) : Nat :=
  let n := if first then delta / 700 else delta / 2
  let (n, k) := shrink (n + n / length) 0
  k + 36 * n / (n + 38)

/-! ## Writing -/

/-- The letters stand for 0 to 25, the digits for 26 to 35. -/
def digit (n : Nat) : CodePoint := .ofNat (if n < 26 then 0x61 + n else 0x30 + n - 26)

/-- A number, from digit `k` on. -/
def writeNumber (bias k n : Nat) : Text :=
  let t := threshold bias k
  if n < t then [digit n]
  else digit (t + (n - t) % (36 - t)) :: writeNumber bias (k + 1) ((n - t) / (36 - t))
termination_by n
decreasing_by
  have := threshold_pos bias k
  have := Nat.div_le_self (n - threshold bias k) (36 - threshold bias k)
  omega

structure Writer where
  written : Text := []
  delta : Nat := 0
  bias : Nat := 72
  /-- How many code points the decoder has by now. -/
  count : Nat
  first : Bool := true

/-- Goes past one code point of the text while `current` is being inserted. -/
def Writer.pass (current : Nat) (w : Writer) (c : CodePoint) : Writer :=
  if c.toNat < current then { w with delta := w.delta + 1 }
  else if c.toNat = current then
    { written := w.written ++ writeNumber w.bias 0 w.delta
      delta := 0
      bias := adapt w.delta (w.count + 1) w.first
      count := w.count + 1
      first := false }
  else w

/-- Inserts code points, given in ascending order; `next` is the one the decoder has come to. -/
def Writer.insertAll (t : Text) : Nat → List Nat → Writer → Writer
  | _, [], w => w
  | next, n :: rest, w =>
    let w := { w with delta := w.delta + (n - next) * (w.count + 1) }
    let w := t.foldl (Writer.pass n) w
    insertAll t (n + 1) rest { w with delta := w.delta + 1 }

/-- The text as ASCII. -/
def encode (t : Text) : Text :=
  let plain := t.filter CodePoint.isAscii
  let others := ((t.filter (!CodePoint.isAscii ·)).map CodePoint.toNat).eraseDups.mergeSort
  let numbers := (Writer.insertAll t 0x80 others { count := plain.length }).written
  if plain.isEmpty then numbers else plain ++ [.char '-'] ++ numbers

/-! ## Reading -/

def digitValue? : CodePoint → Option Nat
  | .char c =>
    if 'a' ≤ c && c ≤ 'z' then some (c.toNat - 0x61)
    else if 'A' ≤ c && c ≤ 'Z' then some (c.toNat - 0x41)
    else if c.isDigit then some (c.toNat - 0x30 + 26)
    else none
  | .surrogate _ => none

/-- A text that is being read: the code points so far, and where the decoder is. -/
structure Reading where
  text : Text
  current : Nat := 0x80
  place : Nat := 0
  bias : Nat := 72
  first : Bool := true

/-- Inserts the code point that a number leads to. `beyond` tells what stands for a number beyond
all code points. -/
def Reading.insert? (beyond : Option Nat) (r : Reading) (delta : Nat) : Option Reading := do
  let length := r.text.length + 1
  let reached := r.place + delta
  let current := r.current + reached / length
  let place := reached % length
  let current ← if 0x10FFFF < current then beyond else some current
  some {
    text := r.text.take place ++ [CodePoint.ofNat current] ++ r.text.drop place
    current
    place := place + 1
    bias := adapt delta length r.first
    first := false }

/-- Reads numbers; `k` digits of the present one have been read, with `value` as their sum and
`weight` for the next. -/
def readFrom? (r : Reading) (k value weight : Nat) : Text → Option Text
  | [] => if k = 0 then some r.text else none
  | c :: rest => do
    let d ← digitValue? c
    let t := threshold r.bias k
    let value := value + d * weight
    if d < t then
      let r ← r.insert? none value
      readFrom? r 0 0 1 rest
    else readFrom? r (k + 1) value (weight * (36 - t)) rest

/-- The ASCII code points of a text, and the numbers after the last hyphen. -/
def parts (t : Text) : Text × Text :=
  let numbers := (t.reverse.takeWhile (· ≠ .char '-')).reverse
  (t.take (t.length - numbers.length - 1), numbers)

/-- The text that some ASCII stands for. -/
def decode? (t : Text) : Option Text :=
  let (plain, numbers) := parts t
  readFrom? { text := plain } 0 0 1 numbers

/-- Reads numbers as `readFrom?` does, but up to the first that has no end or another sign in it,
and puts a question mark for a number beyond all code points. -/
def readUpTo (r : Reading) (k value weight : Nat) : Text → Text
  | [] => r.text
  | c :: rest =>
    match digitValue? c with
    | none => r.text
    | some d =>
      let t := threshold r.bias k
      let value := value + d * weight
      if d < t then
        match r.insert? (some '?'.toNat) value with
        | some r => readUpTo r 0 0 1 rest
        | none => r.text
      else readUpTo r (k + 1) value (weight * (36 - t)) rest

end Punycode

end DartComments
