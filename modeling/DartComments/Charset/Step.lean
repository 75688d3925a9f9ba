import DartComments.Charset.Grid
import DartComments.Text.Wide

/-!
# Charsets of several bytes per character

Bytes are read step by step: a step takes the bytes of one character, or of the few that stand in
one cell. Where there is no character, there is a gap for the bytes that the step passes over, and
where the bytes end too early, one for all that is left. Some charsets have a state, which bytes
without a character of their own change.

In most of these charsets ASCII stands for itself, and two bytes of which the first is not ASCII
stand for a character of a grid.
-/

namespace DartComments

/-- Why bytes could not be read in a charset. -/
inductive CharsetError where
  | noMark16
  | noMark32
  | unfinished
  /-- A byte that is not ASCII, at a place where it must be. -/
  | notAscii (byte place : Nat)
  /-- What is chosen by an escape has no meaning where it is used. -/
  | noMeaning
  | compression
  | rotation
  | hostName
  | undefined
  /-- The charset's name has a zero in it. -/
  | zeroInName
deriving DecidableEq

def CharsetError.message : CharsetError → Text
  | .noMark16 => "UTF-16 stream does not start with BOM"
  | .noMark32 => "UTF-32 stream does not start with BOM"
  | .unfinished => "pending buffer overflow"
  | .notAscii byte place =>
    "'ascii' codec can't decode byte 0x" ++ Text.hex 2 byte ++ " in position " ++
      Text.ofNat place ++ ": ordinal not in range(128)"
  | .noMeaning => "internal codec error"
  | .compression => ""
  | .rotation => "descriptor 'translate' for 'str' objects doesn't apply to a 'bytes' object"
  | .hostName => "Unsupported error handling replace"
  | .undefined => "undefined encoding"
  | .zeroInName => "embedded null character"

namespace Charset

/-- What bytes start with. -/
inductive Step where
  /-- Characters in this many bytes. -/
  | characters (numbers : List Nat) (length : Nat)
  /-- No character, but this many bytes mean something else. -/
  | quiet (length : Nat)
  /-- No character; this many bytes are passed over. -/
  | bad (length : Nat)
  /-- The bytes end before the character does. -/
  | short
  /-- The bytes cannot be read on. -/
  | broken

/-- One character. -/
def Step.character (number length : Nat) : Step := .characters [number] length

/-- How many bytes may be left over at the end. -/
def maxLeftOver : Nat := 8

/-- What is read from bytes, up to a failure if there is one. -/
structure Decoding where
  points : Decoded
  failure : Option CharsetError

namespace Decoding

/-- The text with replacement characters. -/
def lossy (c : Decoding) : Except CharsetError Text :=
  match c.failure with
  | none => .ok c.points.lossy
  | some e => .error e

/-- The text without gaps. Where bytes end too early there is a gap; what has no meaning is a
failure, unless there is a gap before it. -/
def strict (c : Decoding) : Except CharsetError (Option Text) :=
  match c.failure, c.points.strict? with
  | none, text => .ok text
  | some .noMeaning, some _ => .error .noMeaning
  | some _, _ => .ok none

/-- What is read after code points and gaps. -/
def after (points : Decoded) (c : Decoding) : Decoding := { c with points := points ++ c.points }

end Decoding

/-- Reads bytes step by step from a state on. Not too many may be left over. -/
def decodeFrom {σ : Type} (step : σ → UInt8 → Bytes → Step × σ) (s : σ) (bytes : Bytes) :
    Decoding :=
  match bytes with
  | [] => ⟨[], none⟩
  | b :: rest =>
    match step s b rest with
    | (.characters numbers length, s) =>
      (decodeFrom step s (rest.drop (length - 1))).after (numbers.map (some ∘ CodePoint.ofNat))
    | (.quiet length, s) => decodeFrom step s (rest.drop (length - 1))
    | (.bad length, s) => (decodeFrom step s (rest.drop (length - 1))).after [none]
    | (.short, _) => ⟨[none], if maxLeftOver < rest.length + 1 then some .unfinished else none⟩
    | (.broken, _) => ⟨[], some .noMeaning⟩
termination_by bytes.length
decreasing_by all_goals simp only [List.length_drop, List.length_cons]; omega

/-- Reads bytes step by step. -/
def decodeSteps (step : UInt8 → Bytes → Step) (bytes : Bytes) : Decoding :=
  decodeFrom (fun (_ : Unit) b rest => (step b rest, ())) () bytes

/-- A character of this many bytes, or a bad byte. -/
def Step.ofNat? (length : Nat) : Option Nat → Step
  | some n => .character n length
  | none => .bad 1

/-- The characters of a cell that this many bytes tell, or a bad byte. -/
def Step.ofCell (length : Nat) : List Nat → Step
  | [] => .bad 1
  | numbers => .characters numbers length

/-- Every byte that is not ASCII starts a pair. -/
def pairStep (look : Nat → Nat → Option Nat) (a : UInt8) (rest : Bytes) : Step :=
  if a < 0x80 then .character a.toNat 1
  else match rest with
    | [] => .short
    | b :: _ => .ofNat? 2 (look a.toNat b.toNat)

/-- Two bytes from `A1` on as a cell of a grid. -/
def high (g : Grid) (a b : Nat) : Option Nat :=
  if 0xA1 ≤ a && 0xA1 ≤ b then g.cell? (a - 0xA1) (b - 0xA1) else none

/-- Two bytes from `21` on as a cell of a grid. -/
def low (g : Grid) (a b : Nat) : Option Nat :=
  if 0x21 ≤ a && 0x21 ≤ b then g.cell? (a - 0x21) (b - 0x21) else none

/-- The first of these that is there. -/
def firstOf (options : List (Option Nat)) : Option Nat := options.findSome? id

end Charset

end DartComments
