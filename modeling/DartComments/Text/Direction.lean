import DartComments.Text.Mark

/-!
# Directions of writing

Which way a code point is written: to the left as in Hebrew or Arabic, to the right as in most other
scripts, or the way of its neighbours. Only what may stand in the name of a host is told apart.
-/

namespace DartComments

inductive Direction where
  /-- To the right. -/
  | rightward
  /-- To the left, other than Arabic. -/
  | leftward
  | arabic
  | arabicNumber
  | europeanNumber
  | separator
  | neutral
  | boundary
  /-- A mark without a direction of its own. -/
  | nonspacing
deriving DecidableEq

namespace Direction

/-- Letters written to the left. -/
def leftwardRanges : List (Nat × Nat) :=
  [(0x5D0, 0x5EA), (0x5EF, 0x5F4), (0x7C0, 0x7EA), (0x7F4, 0x7F5), (0x800, 0x815), (0x81A, 0x81A),
    (0x824, 0x824), (0x828, 0x828), (0x840, 0x858), (0x10800, 0x10805), (0x10808, 0x10808),
    (0x1080A, 0x10835), (0x10837, 0x10838), (0x1083C, 0x1083C), (0x1083F, 0x10855),
    (0x10860, 0x10876), (0x10880, 0x1089E), (0x108E0, 0x108F2), (0x108F4, 0x108F5),
    (0x10900, 0x10915), (0x10920, 0x10939), (0x10980, 0x109B7), (0x109BE, 0x109BF),
    (0x10A00, 0x10A00), (0x10A10, 0x10A13), (0x10A15, 0x10A17), (0x10A19, 0x10A35),
    (0x10A60, 0x10A7C), (0x10A80, 0x10A9C), (0x10AC0, 0x10AC7), (0x10AC9, 0x10AE4),
    (0x10B00, 0x10B35), (0x10B40, 0x10B55), (0x10B60, 0x10B72), (0x10B80, 0x10B91),
    (0x10C00, 0x10C48), (0x10CC0, 0x10CF2), (0x10E80, 0x10EA9), (0x10EB0, 0x10EB1),
    (0x10F00, 0x10F1C), (0x10F27, 0x10F27), (0x10F70, 0x10F81), (0x10FB0, 0x10FC4),
    (0x10FE0, 0x10FF6), (0x1E800, 0x1E8C4), (0x1E922, 0x1E943), (0x1E94B, 0x1E94B),
    (0x1E950, 0x1E959)]

/-- Letters of Arabic and the scripts that go with it. -/
def arabicRanges : List (Nat × Nat) :=
  [(0x620, 0x63F), (0x641, 0x64A), (0x66E, 0x66F), (0x671, 0x674), (0x679, 0x6D3), (0x6D5, 0x6D5),
    (0x6E5, 0x6E6), (0x6EE, 0x6EF), (0x6FA, 0x6FF), (0x710, 0x710), (0x712, 0x72F), (0x74D, 0x7A5),
    (0x7B1, 0x7B1), (0x860, 0x86A), (0x870, 0x887), (0x889, 0x88E), (0x8A0, 0x8C9),
    (0xFE73, 0xFE73), (0x10D00, 0x10D23), (0x10F30, 0x10F45)]

def arabicNumberRanges : List (Nat × Nat) :=
  [(0x660, 0x669), (0x10D30, 0x10D39)]

def europeanNumberRanges : List (Nat × Nat) :=
  [(0x30, 0x39), (0x6F0, 0x6F9)]

def neutralRanges : List (Nat × Nat) :=
  [(0xB7, 0xB7), (0x2B9, 0x2BA), (0x2C6, 0x2CF), (0x2EC, 0x2EC), (0x375, 0x375), (0x2E2F, 0x2E2F),
    (0x30FB, 0x30FB), (0xA67F, 0xA67F), (0xA717, 0xA71F), (0xA788, 0xA788)]

def boundaryRanges : List (Nat × Nat) := [(0x200C, 0x200D)]

/-- Is a number in one of the ranges? -/
def isIn (ranges : List (Nat × Nat)) (n : Nat) : Bool := ranges.any fun r => r.1 ≤ n && n ≤ r.2

/-- The direction of a code point. -/
def ofPoint (c : CodePoint) : Direction :=
  let n := c.toNat
  if c.isNonspacing then .nonspacing
  else if isIn leftwardRanges n then .leftward
  else if isIn arabicRanges n then .arabic
  else if isIn arabicNumberRanges n then .arabicNumber
  else if isIn europeanNumberRanges n then .europeanNumber
  else if c = .char '-' then .separator
  else if isIn neutralRanges n then .neutral
  else if isIn boundaryRanges n then .boundary
  else .rightward

/-- Does the direction belong to text that is written to the left? -/
def isLeftward : Direction → Bool
  | .leftward | .arabic | .arabicNumber => true
  | _ => false

/-- May a text written to the left have it? -/
def fitsLeftward (d : Direction) : Bool := d ≠ .rightward

/-- May a text written to the right have it? -/
def fitsRightward (d : Direction) : Bool := !d.isLeftward

/-- The last direction that is not that of a mark. -/
def lastOf (ds : List Direction) : Option Direction :=
  ds.reverse.find? (· ≠ .nonspacing)

/-- May a text with these directions, of which the first is given, be a word? Words without letters
written to the left always may. Otherwise all goes one way, the end is a letter or a number, and in
words written to the left there is one kind of number. -/
def areConsistent (first : Direction) (ds : List Direction) : Bool :=
  if !ds.any isLeftward then true
  else match first with
    | .leftward | .arabic =>
      ds.all fitsLeftward &&
        (lastOf ds).any (fun d => d.isLeftward || d = .europeanNumber) &&
        !(ds.contains .arabicNumber && ds.contains .europeanNumber)
    | .rightward =>
      ds.all fitsRightward && (lastOf ds).any fun d => d = .rightward || d = .europeanNumber
    | _ => false

end Direction

end DartComments
