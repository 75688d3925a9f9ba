import DartComments.Charset.Step
import DartComments.Text.Digit
import DartComments.Text.Name

/-!
# Charsets with backslashes

Each byte is the character of that number, but a backslash starts an escape. One charset has all the
escapes that texts in quotes have: signs and control characters by a letter, characters by octal or
hexadecimal numbers, and characters by name. The other has hexadecimal numbers of four and eight
digits only. A backslash that starts no escape stands for itself, together with what follows it.
-/

namespace DartComments

namespace Charset

/-- The value of a hexadecimal digit. -/
def hexValue? (b : UInt8) : Option Nat := (CodePoint.ofNat b.toNat).hexDigit?

/-- The value of an octal digit. -/
def octalValue? (b : UInt8) : Option Nat :=
  if 0x30 ≤ b && b ≤ 0x37 then some (b.toNat - 0x30) else none

/-- The values of the digits that bytes start with, at most `count` of them. -/
def digitsFrom (value? : UInt8 → Option Nat) : Nat → Bytes → List Nat
  | count + 1, b :: rest =>
    match value? b with
    | some d => d :: digitsFrom value? count rest
    | none => []
  | _, _ => []

def ofDigits (base : Nat) (digits : List Nat) : Nat := digits.foldl (· * base + ·) 0

/-- The character of `count` hexadecimal digits, which follow a backslash and a letter. -/
def hexStep (count : Nat) (bytes : Bytes) : Step :=
  let digits := digitsFrom hexValue? count bytes
  let n := ofDigits 16 digits
  if digits.length = count && n < 0x110000 then .character n (count + 2)
  else .bad (digits.length + 2)

/-- The character of a name in braces, which follow a backslash and a letter. -/
def namedStep : Bytes → Step
  | 0x7B :: bytes =>
    let name := bytes.takeWhile (· ≠ 0x7D)
    if name.length = bytes.length then .bad (name.length + 3)
    else if name.isEmpty then .bad 3
    else match CharacterName.find? (name.map fun b => Char.ofNat b.toNat) with
      | some n => .character n (name.length + 4)
      | none => .bad (name.length + 4)
  | _ => .bad 2

/-- The signs and control characters that letters stand for. -/
def lettered : List (UInt8 × Nat) :=
  [(0x5C, 0x5C), (0x27, 0x27), (0x22, 0x22), (0x62, 0x08), (0x66, 0x0C), (0x74, 0x09),
    (0x6E, 0x0A), (0x72, 0x0D), (0x76, 0x0B), (0x61, 0x07)]

/-- All the escapes. A backslash before the end of a line joins it to the next. -/
def backslashStep (a : UInt8) (rest : Bytes) : Step :=
  if a ≠ 0x5C then .character a.toNat 1
  else match rest with
    | [] => .bad 1
    | 0x0A :: _ => .quiet 2
    | 0x78 :: after => hexStep 2 after
    | 0x75 :: after => hexStep 4 after
    | 0x55 :: after => hexStep 8 after
    | 0x4E :: after => namedStep after
    | b :: _ =>
      match digitsFrom octalValue? 3 rest, lettered.lookup b with
      | [], some n => .character n 2
      | [], none => .characters [0x5C, b.toNat] 2
      | digits, _ => .character (ofDigits 8 digits) (digits.length + 1)

/-- Hexadecimal numbers of four and eight digits. -/
def rawBackslashStep (a : UInt8) (rest : Bytes) : Step :=
  if a ≠ 0x5C then .character a.toNat 1
  else match rest with
    | [] => .character 0x5C 1
    | 0x75 :: after => hexStep 4 after
    | 0x55 :: after => hexStep 8 after
    | b :: _ => .characters [0x5C, b.toNat] 2

end Charset

end DartComments
