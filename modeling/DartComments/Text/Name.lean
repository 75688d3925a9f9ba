import DartComments.Text.Name.Alphabets
import DartComments.Text.Name.AncientScripts
import DartComments.Text.Name.OtherNames
import DartComments.Text.Name.Pictures
import DartComments.Text.Name.Syllabaries
import DartComments.Text.Name.Symbols

/-!
# Names of characters

Unicode gives each character a name, and some have other names besides. Names are found whatever the
case of their letters. The names of hangul and hanzi follow rules, and have to be in capitals.

    find? "digit one" = some 0x31
    find? "HANGUL SYLLABLE GAG" = some 0xAC01
    find? "CJK UNIFIED IDEOGRAPH-4E01" = some 0x4E01
-/

namespace DartComments

namespace CharacterName

/-- What follows a text, if a name starts with it. -/
def after? (start : String) (name : List Char) : Option (List Char) :=
  if start.toList.isPrefixOf name then some (name.drop start.length) else none

/-! ## Names that end in the number -/

/-- Characters that are named by their numbers: the start of their names, and the first and the
last. -/
def numbered : List (String × Nat × Nat) :=
  [("CJK COMPATIBILITY IDEOGRAPH-", 0xF900, 0xFA6D),
    ("CJK COMPATIBILITY IDEOGRAPH-", 0xFA70, 0xFAD9),
    ("CJK COMPATIBILITY IDEOGRAPH-", 0x2F800, 0x2FA1D),
    ("KHITAN SMALL SCRIPT CHARACTER-", 0x18B00, 0x18CD5), ("NUSHU CHARACTER-", 0x1B170, 0x1B2FB)]

/-- The value of a hexadecimal digit with a capital letter. -/
def hexValue? (c : Char) : Option Nat :=
  if c.isDigit then some (c.toNat - '0'.toNat)
  else if 'A' ≤ c && c ≤ 'F' then some (c.toNat - 'A'.toNat + 10)
  else none

/-- The number of hexadecimal digits with capital letters. -/
def ofHex? (digits : List Char) : Option Nat :=
  digits.foldlM (fun n c => (hexValue? c).map (n * 16 + ·)) 0

/-- The number at the end of a name, if it has no zeros before it. -/
def ofNumbered? (name : List Char) : Option Nat :=
  numbered.findSome? fun (start, first, last) => do
    let digits ← after? start name
    let n ← ofHex? digits
    if first ≤ n && n ≤ last && digits.head? ≠ some '0' then some n else none

/-! ## Hanzi -/

/-- The hanzi that are named by their numbers: the first and the last. -/
def ideographs : List (Nat × Nat) :=
  [(0x3400, 0x4DBF), (0x4E00, 0x9FFF), (0x20000, 0x2A6DF), (0x2A700, 0x2B738), (0x2B740, 0x2B81D),
    (0x2B820, 0x2CEA1), (0x2CEB0, 0x2EBE0), (0x30000, 0x3134A)]

/-- The hanzi of a number of four or five digits. -/
def ideograph? (digits : List Char) : Option Nat := do
  let n ← ofHex? digits
  if digits.length ∈ [4, 5] && ideographs.any (fun (first, last) => first ≤ n && n ≤ last) then
    some n
  else none

/-! ## Hangul -/

def initialSounds : List String :=
  ["G", "GG", "N", "D", "DD", "R", "M", "B", "BB", "S", "SS", "", "J", "JJ", "C", "K", "T", "P",
    "H"]

def vowelSounds : List String :=
  ["A", "AE", "YA", "YAE", "EO", "E", "YEO", "YE", "O", "WA", "WAE", "OE", "YO", "U", "WEO", "WE",
    "WI", "YU", "EU", "YI", "I"]

def finalSounds : List String :=
  ["", "G", "GG", "GS", "N", "NJ", "NH", "D", "L", "LG", "LM", "LB", "LS", "LT", "LP", "LH", "M",
    "B", "BS", "S", "SS", "NG", "J", "C", "K", "T", "P", "H"]

/-- The longest sound that letters start with, by its place, and what follows it. -/
def sound? (sounds : List String) (letters : List Char) : Option (Nat × List Char) :=
  (sounds.zipIdx.filterMap fun (sound, place) => (after? sound letters).map (place, ·)).foldl
    (fun longest s => match longest with
      | none => some s
      | some t => some (if s.2.length < t.2.length then s else t)) none

/-- The syllable of three sounds. -/
def syllable? (letters : List Char) : Option Nat := do
  let (i, letters) ← sound? initialSounds letters
  let (v, letters) ← sound? vowelSounds letters
  let (f, letters) ← sound? finalSounds letters
  if letters.isEmpty then some (0xAC00 + (i * 21 + v) * 28 + f) else none

/-! ## All names -/

def rows : List Row :=
  alphabets ++ symbols ++ syllabaries ++ ancientScripts ++ pictures ++ otherNames

/-- The number of the character with a name. -/
def find? (name : List Char) : Option Nat :=
  match after? "HANGUL SYLLABLE " name, after? "CJK UNIFIED IDEOGRAPH-" name with
  | some letters, _ => syllable? letters
  | none, some digits => ideograph? digits
  | none, none =>
    let name := name.map Char.toUpper
    match ofNumbered? name with
    | some n => some n
    | none => rows.findSome? fun row => row.names.lookup name

end CharacterName

end DartComments
