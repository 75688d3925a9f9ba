import DartComments.Text.Wide

/-!
# UTF-7

ASCII stands for itself. A plus sign begins a stretch of units of 16 bits in base 64, six bits per
letter, which a hyphen or any other character ends; `+-` is the plus sign. What breaks the rules
becomes a gap, together with the character at which that shows.
-/

namespace DartComments

namespace Shifted

/-- The value of a letter of base 64. -/
def value? (b : UInt8) : Option Nat :=
  let n := b.toNat
  if 0x41 ≤ n && n ≤ 0x5A then some (n - 0x41)
  else if 0x61 ≤ n && n ≤ 0x7A then some (n - 0x61 + 26)
  else if 0x30 ≤ n && n ≤ 0x39 then some (n - 0x30 + 52)
  else if n = 0x2B then some 62
  else if n = 0x2F then some 63
  else none

/-- Where the reader is. -/
inductive State where
  | plain
  /-- Right after a plus sign. -/
  | opened
  /-- In a stretch: `count` bits that are no unit yet, and a high surrogate without its partner. -/
  | shifted (bits count : Nat) (high : Option Nat)

/-- Is a stretch broken off in the middle of a unit? -/
def isBroken (bits count : Nat) : Bool := 6 ≤ count || bits ≠ 0

/-- A unit after what may be a high surrogate: the code points that are complete, and the high
surrogate that waits. -/
def complete (high : Option Nat) (unit : Nat) : List Nat × Option Nat :=
  match high with
  | some h =>
    if Wide.isLow unit then ([Wide.pairValue h unit], none)
    else if Wide.isHigh unit then ([h], some unit)
    else ([h, unit], none)
  | none => if Wide.isHigh unit then ([], some unit) else ([unit], none)

/-- Six more bits. -/
def shift (bits count : Nat) (high : Option Nat) (value : Nat) : Decoded × State :=
  let bits := bits * 64 + value
  let count := count + 6
  if count < 16 then ([], .shifted bits count high)
  else
    let left := count - 16
    let (done, high) := complete high (bits / Nat.pow 2 left)
    (done.map (some ∘ CodePoint.ofNat), .shifted (bits % Nat.pow 2 left) left high)

/-- A byte outside of a stretch. -/
def plainStep (b : UInt8) : Decoded × State :=
  if b = 0x2B then ([], .opened)
  else if b < 0x80 then ([some (CodePoint.ofNat b.toNat)], .plain)
  else ([none], .plain)

/-- One byte. -/
def step (s : State) (b : UInt8) : Decoded × State :=
  match s with
  | .plain => plainStep b
  | .opened =>
    if b = 0x2D then ([some (.char '+')], .plain)
    else match value? b with
      | some v => shift 0 0 none v
      | none => ([none], .plain)
  | .shifted bits count high =>
    match value? b with
    | some v => shift bits count high v
    | none =>
      if isBroken bits count then ([none], .plain)
      else
        let waiting :=
          if b < 0x80 && b ≠ 0x2B then (high.map (some ∘ CodePoint.ofNat)).toList else []
        let (here, next) := if b = 0x2D then ([], .plain) else plainStep b
        (waiting ++ here, next)

/-- What the end of the bytes leaves. -/
def finish : State → Decoded
  | .shifted bits count high => if high.isSome || isBroken bits count then [none] else []
  | _ => []

/-- The code points of some bytes. -/
def decodeFrom (s : State) : Bytes → Decoded
  | [] => finish s
  | b :: rest => (step s b).1 ++ decodeFrom (step s b).2 rest

def decode (bytes : Bytes) : Decoded := decodeFrom .plain bytes

end Shifted

end DartComments
