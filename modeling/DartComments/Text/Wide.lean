import DartComments.Text.Decoded
import DartComments.Text.Utf8

/-!
# Units of two and four bytes

UTF-16 and UTF-32 in either byte order. Two units of UTF-16, a high and a low surrogate, are one
character. `decode16` and `decode32` leave a gap in place of what is no character and of bytes that
are left over.
-/

namespace DartComments

inductive ByteOrder where
  | little
  | big
deriving DecidableEq

namespace Wide

/-- Two bytes as a number. -/
def word (order : ByteOrder) (a b : UInt8) : Nat :=
  match order with
  | .little => a.toNat + 256 * b.toNat
  | .big => b.toNat + 256 * a.toNat

/-- Four bytes as a number. -/
def longWord (order : ByteOrder) (a b c d : UInt8) : Nat :=
  match order with
  | .little => word .little a b + 65536 * word .little c d
  | .big => word .big c d + 65536 * word .big a b

def isHigh (n : Nat) : Bool := 0xD800 ≤ n && n < 0xDC00

def isLow (n : Nat) : Bool := 0xDC00 ≤ n && n < 0xE000

/-- The character that two surrogates stand for. -/
def pairValue (high low : Nat) : Nat := 0x10000 + (high - 0xD800) * 0x400 + (low - 0xDC00)

/-- The code points of 16-bit units. -/
def decode16 (order : ByteOrder) : Bytes → Decoded
  | [] => []
  | [_] => [none]
  | a :: b :: rest =>
    let u := word order a b
    if isHigh u then
      match rest with
      | c :: d :: others =>
        let v := word order c d
        if isLow v then some (CodePoint.ofNat (pairValue u v)) :: decode16 order others
        else none :: decode16 order (c :: d :: others)
      | _ => [none]
    else (if isLow u then none else some (CodePoint.ofNat u)) :: decode16 order rest
termination_by bytes => bytes.length

/-- The code points of 32-bit units. -/
def decode32 (order : ByteOrder) : Bytes → Decoded
  | a :: b :: c :: d :: rest =>
    let n := longWord order a b c d
    let isCharacter := n < 0x110000 && !isHigh n && !isLow n
    (if isCharacter then some (CodePoint.ofNat n) else none) :: decode32 order rest
  | [] => []
  | _ => [none]

end Wide

end DartComments
