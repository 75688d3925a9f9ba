import DartComments.Charset.Hangul
import DartComments.Charset.Step

/-!
# Korean charsets

The syllables in common use stand in a grid. All the others can be put together from letters, or, in
a wider charset, stand before and beside the grid. Another charset has five bits for each letter of
a syllable.
-/

namespace DartComments

namespace Charset

/-! ## Syllables of letters -/

/-- The letters that a syllable can start with. -/
def initials : List Char := "ㄱㄲㄴㄷㄸㄹㅁㅂㅃㅅㅆㅇㅈㅉㅊㅋㅌㅍㅎ".toList

/-- The letters that a syllable can end with. -/
def finals : List Char := "ㄱㄲㄳㄴㄵㄶㄷㄹㄺㄻㄼㄽㄾㄿㅀㅁㅂㅄㅅㅆㅇㅈㅊㅋㅌㅍㅎ".toList

/-- The letter of a second byte. -/
def consonant? (b : UInt8) : Option Char :=
  if 0xA1 ≤ b && b ≤ 0xBE then some (Char.ofNat (0x3131 + (b.toNat - 0xA1))) else none

/-- The syllable of an initial, a vowel and a final, where a filler is no final. -/
def syllable? (initial vowel final : UInt8) : Option Nat := do
  let i ← (← consonant? initial) |> initials.idxOf?
  let v ← if 0xBF ≤ vowel && vowel ≤ 0xD3 then some (vowel.toNat - 0xBF) else none
  let f ← if final = 0xD4 then some 0 else do
    let place ← (← consonant? final) |> finals.idxOf?
    some (place + 1)
  some (0xAC00 + i * 588 + v * 28 + f)

/-- The grid, in which a filler starts a syllable of letters. -/
def hangulStep (a : UInt8) (rest : Bytes) : Step :=
  match a, rest with
  | 0xA4, 0xD4 :: after =>
    match after with
    | m :: initial :: m' :: vowel :: m'' :: final :: _ =>
      if m = 0xA4 && m' = 0xA4 && m'' = 0xA4 then .ofNat? 8 (syllable? initial vowel final)
      else .bad 1
    | _ => .short
  | _, _ => pairStep (high hangul) a rest

/-! ## The wider charset -/

/-- The syllables that the grid does not have. -/
def moreHangul : Array Nat := unused 0xAC00 0xD7A3 hangul.characters

/-- The place of a second byte: a letter of ASCII, or a byte from `81` on. -/
def hangulTrail? (b : Nat) : Option Nat :=
  if 0x41 ≤ b && b ≤ 0x5A then some (b - 0x41)
  else if 0x61 ≤ b && b ≤ 0x7A then some (b - 0x61 + 26)
  else if 0x81 ≤ b && b ≤ 0xFE then some (b - 0x81 + 52)
  else none

/-- The place of two bytes among the syllables that the grid does not have. -/
def moreHangulPlace? (a b : Nat) : Option Nat := do
  let column ← hangulTrail? b
  if 0x81 ≤ a && a ≤ 0xA0 then some ((a - 0x81) * 178 + column)
  else if 0xA1 ≤ a && b ≤ 0xA0 then some (5696 + (a - 0xA1) * 84 + column)
  else none

def wideHangul (a b : Nat) : Option Nat :=
  firstOf [high hangul a b, (moreHangulPlace? a b).bind (moreHangul[·]?)]

/-! ## Letters of five bits -/

/-- What five bits stand for, if anything: no letter, or a letter by its place. -/
abbrev LetterBits := Option (Option Nat)

def initialBits (n : Nat) : LetterBits :=
  if n = 1 then some none else if 2 ≤ n && n ≤ 20 then some (some (n - 2)) else none

/-- In each group of eight the first two stand for nothing. -/
def vowelBits (n : Nat) : LetterBits :=
  if n = 2 then some none
  else if 3 ≤ n && n ≤ 29 && 2 ≤ n % 8 then some (some (n - 3 - n / 8 * 2))
  else none

def finalBits (n : Nat) : LetterBits :=
  if n = 1 then some none
  else if 2 ≤ n && n ≤ 17 then some (some (n - 2))
  else if 19 ≤ n && n ≤ 29 then some (some (n - 3))
  else none

/-- A syllable, or a letter that stands alone. -/
def ofLetters? (initial vowel final : Option Nat) : Option Nat :=
  match initial, vowel, final with
  | some i, some v, f => some (0xAC00 + i * 588 + v * 28 + (f.map (· + 1)).getD 0)
  | some i, none, none => (initials[i]?).map Char.toNat
  | none, some v, none => some (0x314F + v)
  | none, none, some f => (finals[f]?).map Char.toNat
  | none, none, none => some 0x3000
  | _, _, _ => none

/-- The signs and hanja of the grid, of which each first byte has two rows. -/
def signOrHanja? (a b : Nat) : Option Nat := do
  let row ← if 0xD9 ≤ a && a ≤ 0xDE then some (2 * (a - 0xD9))
    else if 0xE0 ≤ a && a ≤ 0xF9 then some (2 * (a - 0xE0) + 41)
    else none
  let column ← if 0x31 ≤ b && b < 0x7F then some (b - 0x31)
    else if 0x91 ≤ b && b < 0xFF then some (b - 0x43)
    else none
  if a = 0xDA && 0xA1 ≤ b && b ≤ 0xD3 then none
  else hangul.cell? (row + column / 94) (column % 94)

/-- Two bytes of which the first bit is set, with three letters of five bits in the others. -/
def letterPair (a b : Nat) : Option Nat :=
  if a < 0xD8 then do
    let initial ← initialBits (a / 4 % 32)
    let vowel ← vowelBits (a % 4 * 8 + b / 32)
    let final ← finalBits (b % 32)
    ofLetters? initial vowel final
  else signOrHanja? a b

end Charset

end DartComments
