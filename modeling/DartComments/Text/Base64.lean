import DartComments.Text.Utf8

/-!
# Base 64

Three bytes are written as four characters of six bits each. One or two bytes at the end are written
as two or three characters, and equals signs fill up the four.
-/

namespace DartComments

namespace Base64

/-- The characters for 0 to 63, in order. -/
def alphabet : List Char :=
  "ABCDEFGHIJKLMNOPQRSTUVWXYZabcdefghijklmnopqrstuvwxyz0123456789+/".toList

def digit (n : Nat) : CodePoint := .char ((alphabet[n % 64]?).getD '=')

/-- The text of some bytes. -/
def encode : Bytes → Text
  | [] => []
  | [a] => [digit (a.toNat / 4), digit (a.toNat * 16), .char '=', .char '=']
  | [a, b] =>
    let n := a.toNat * 256 + b.toNat
    [digit (n / 1024), digit (n / 16), digit (n * 4), .char '=']
  | a :: b :: c :: rest =>
    let n := (a.toNat * 256 + b.toNat) * 256 + c.toNat
    digit (n / 262144) :: digit (n / 4096) :: digit (n / 64) :: digit n :: encode rest

end Base64

end DartComments
