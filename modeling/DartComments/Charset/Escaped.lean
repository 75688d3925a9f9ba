import DartComments.Charset.Hangul
import DartComments.Charset.Hanzi
import DartComments.Charset.Japanese

/-!
# Charsets with escapes

All bytes are ASCII. An escape byte and a few characters after it choose which grid two bytes are a
cell of, or that each byte is a character by itself. A grid can also be chosen for later, and two
control bytes turn it on and off. The upper half of a Western or Greek charset can be chosen for
single characters, each of which comes after an escape of its own. Escapes that mean nothing here
stand for themselves up to the capital letter that ends them.
-/

namespace DartComments

namespace Charset

/-- What bytes are. -/
inductive Designation where
  | ascii
  /-- ASCII but for two signs. -/
  | roman
  | katakana
  /-- Two bytes are a cell. -/
  | cells (look : Nat → Nat → List Nat)
  /-- The upper half of Latin-1. -/
  | western
  | greek

/-- The cells of a grid. -/
def Designation.grid (g : Grid) : Designation := .cells fun a b => (low g a b).toList

/-- The letters with which escapes choose, and whether the control bytes and the escape of a single
character have a meaning. -/
structure Escapes where
  single : List (UInt8 × Designation)
  double : List (UInt8 × Designation)
  shifts : Bool
  asides : Bool := false

/-- The kanji and the older form of their grid. -/
def kanjiEscapes : Escapes where
  single := [(0x42, .ascii), (0x4A, .roman)]
  double := [(0x42, .grid kanji), (0x40, .grid kanji)]
  shifts := false

/-- The rare kanji too. -/
def rareKanjiEscapes : Escapes :=
  { kanjiEscapes with double := kanjiEscapes.double ++ [(0x44, .grid rareKanji)] }

/-- The narrow katakana too. -/
def katakanaEscapes : Escapes :=
  { rareKanjiEscapes with single := kanjiEscapes.single ++ [(0x49, .katakana)] }

/-- Hanzi and hangul too, and Western and Greek characters one by one. -/
def foreignEscapes : Escapes where
  single := kanjiEscapes.single ++ [(0x41, .western), (0x46, .greek)]
  double := rareKanjiEscapes.double ++ [(0x41, .grid hanzi), (0x43, .grid hangul)]
  shifts := false
  asides := true

/-- The first plane, in which the tilde is that of ASCII. -/
def planeCell (late : Bool) (a b : Nat) : List Nat :=
  if a * 256 + b = 0x2232 then [0x7E] else firstPlane late a b

/-- The kanji and both planes, the first of which has another letter in each edition. -/
def planesEscapes (late : Bool) : Escapes where
  single := [(0x42, .ascii)]
  double :=
    [(0x42, .grid kanji), (if late then 0x51 else 0x4F, .cells (planeCell late)),
      (0x50, .cells fun a b => (secondPlane? true a b).toList)]
  shifts := false

def hangulEscapes : Escapes where
  single := [(0x42, .ascii)]
  double := [(0x43, .grid hangul)]
  shifts := true

/-- What is chosen. -/
structure Choice where
  now : Designation := .ascii
  later : Designation := .ascii
  /-- For single characters. -/
  aside : Designation := .ascii
  shifted : Bool := false
  /-- In an escape that means nothing. -/
  through : Bool := false

/-- Does a byte end an escape? -/
def endsEscape (b : UInt8) : Bool := 0x40 ≤ b && b ≤ 0x5A

/-- The length of an escape up to the byte that ends it, of which `taken` bytes have been taken. A
mark of revision in it is passed over; no escape is longer than sixteen bytes. -/
def escapeLength (e : Escapes) (taken : Nat) (bytes : Bytes) : Step :=
  if 16 ≤ taken then .bad 1
  else match bytes with
    | [] => .short
    | b :: rest =>
      if endsEscape b then .quiet (taken + 1)
      else if !e.shifts && b = 0x26 && rest.head? = some 0x40 then
        escapeLength e (taken + 3) (rest.drop 2)
      else escapeLength e (taken + 1) rest
termination_by bytes.length
decreasing_by all_goals simp only [List.length_drop, List.length_cons]; omega

/-- What an escape chooses, without the escape byte. A mark of revision, which may be any two bytes,
can stand before the escape for the kanji. -/
def chosen? (e : Escapes) (c : Choice) : Bytes → Option Choice
  | [0x28, b] => (e.single.lookup b).map fun d => { c with now := d }
  | [0x29, b] => (e.single.lookup b).map fun d => { c with later := d }
  | [0x2E, b] => if e.asides then (e.single.lookup b).map fun d => { c with aside := d } else none
  | [0x24, b] => (e.double.lookup b).map fun d => { c with now := d }
  | [0x24, 0x28, b] => (e.double.lookup b).map fun d => { c with now := d }
  | [0x24, 0x29, b] => (e.double.lookup b).map fun d => { c with later := d }
  | [_, _, 0x1B, 0x24, 0x42] =>
    if e.shifts then none else (e.double.lookup 0x42).map fun d => { c with now := d }
  | _ => none

/-- Can this follow the escape byte? -/
def startsChoice (b : UInt8) : Bool := [0x24, 0x26, 0x28, 0x29, 0x2E].contains b

/-- The Greek character of a byte: not the signs of later editions, and ASCII in the upper half. -/
def greek? (b : UInt8) : Option Nat :=
  if 0x80 ≤ b then some (b.toNat - 0x80)
  else if [0x24, 0x25, 0x2A, 0x2E, 0x52, 0x7F].contains b then none
  else if b = 0x21 then some 0x2018
  else if b = 0x22 then some 0x2019
  else if b = 0x2F then some 0x2015
  else if b < 0x34 || b = 0x37 || b = 0x3B || b = 0x3D then some (b.toNat + 0x80)
  else some (b.toNat + 0x350)

/-- A single character after its escape. -/
def asideStep (d : Designation) (b : UInt8) : Step :=
  let step (n : Option Nat) : Step := (n.map fun n => .character n 3).getD (.bad 3)
  match d with
  | .ascii => step (if b < 0x80 then some b.toNat else none)
  | .western => step (if b < 0x80 then some (b.toNat + 0x80) else none)
  | .greek => step (greek? b)
  | _ => .broken

/-- An escape. -/
def escapeStep (e : Escapes) (c : Choice) (rest : Bytes) : Step × Choice :=
  match rest with
  | [] => (.short, c)
  | b :: after =>
    if e.asides && b = 0x4E then ((after.head?.map (asideStep c.aside)).getD .short, c)
    else if !startsChoice b then (.character 0x1B 1, { c with through := true })
    else match escapeLength e 1 rest with
      | .quiet length =>
        match chosen? e c (rest.take (length - 1)) with
        | some c => (.quiet length, c)
        | none => (.bad length, c)
      | s => (s, c)

/-- A byte that is a character, or two that are a cell. -/
def designatedStep (d : Designation) (a : UInt8) (rest : Bytes) : Step :=
  match d with
  | .ascii => .character a.toNat 1
  | .roman => .character (roman a) 1
  | .katakana => .ofNat? 1 (katakana? (a.toNat + 0x80))
  | .cells look =>
    match rest with
    | [] => .short
    | b :: _ =>
      match look a.toNat b.toNat with
      | [] => .bad 2
      | numbers => .characters numbers 2
  | .western | .greek => .bad 1

/-- One character or escape. The end of a line turns off what was turned on. -/
def escapedStep (e : Escapes) (c : Choice) (a : UInt8) (rest : Bytes) : Step × Choice :=
  if c.through then (.character a.toNat 1, { c with through := !endsEscape a })
  else match a with
    | 0x1B => escapeStep e c rest
    | 0x0A => (.character 0x0A 1, { c with shifted := false })
    | _ =>
      if e.shifts && a = 0x0F then (.quiet 1, { c with shifted := false })
      else if e.shifts && a = 0x0E then (.quiet 1, { c with shifted := true })
      else if a < 0x20 then (.character a.toNat 1, c)
      else if 0x80 ≤ a then (.bad 1, c)
      else (designatedStep (if c.shifted then c.later else c.now) a rest, c)

end Charset

end DartComments
