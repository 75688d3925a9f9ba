import DartComments.Json.Reader
import DartComments.Text.Wide

/-!
# JSON from bytes

The bytes of a JSON document may be UTF-8, UTF-16 or UTF-32, in either byte order and with or
without a byte order mark. Where there is no mark the zeros among the first four bytes tell:
a document starts with two ASCII characters. Surrogates are accepted in each encoding.
-/

namespace DartComments

namespace Json

inductive Encoding where
  | utf8
  | utf16 (order : ByteOrder)
  | utf32 (order : ByteOrder)

/-- The byte order marks; one that starts with another comes first. -/
def marks : List (Bytes × Encoding) :=
  [([0x00, 0x00, 0xFE, 0xFF], .utf32 .big), ([0xFF, 0xFE, 0x00, 0x00], .utf32 .little),
    ([0xFE, 0xFF], .utf16 .big), ([0xFF, 0xFE], .utf16 .little), ([0xEF, 0xBB, 0xBF], .utf8)]

/-- The encoding of a document without a byte order mark. -/
def encodingOf : Bytes → Encoding
  | a :: b :: c :: d :: _ =>
    if a = 0 then if b = 0 then .utf32 .big else .utf16 .big
    else if b = 0 then if c = 0 && d = 0 then .utf32 .little else .utf16 .little
    else .utf8
  | [a, b] => if a = 0 then .utf16 .big else if b = 0 then .utf16 .little else .utf8
  | _ => .utf8

/-- The encoding of a document and its bytes without a byte order mark. -/
def detect (bytes : Bytes) : Encoding × Bytes :=
  match marks.find? fun m => m.1.isPrefixOf bytes with
  | some (mark, encoding) => (encoding, bytes.drop mark.length)
  | none => (encodingOf bytes, bytes)

/-- The 16-bit units of a document, if no byte is left over. -/
def units16? (order : ByteOrder) : Bytes → Option (List Nat)
  | [] => some []
  | [_] => none
  | a :: b :: rest => (units16? order rest).map (Wide.word order a b :: ·)

/-- The code points of 16-bit units; a surrogate without a partner is kept. -/
def pairUp : List Nat → Text
  | [] => []
  | [u] => [CodePoint.ofNat u]
  | u :: v :: rest =>
    if Wide.isHigh u && Wide.isLow v then
      CodePoint.ofNat (Wide.pairValue u v) :: pairUp rest
    else CodePoint.ofNat u :: pairUp (v :: rest)

/-- The code points of 32-bit units, if no byte is left over and none is too great. -/
def decode32? (order : ByteOrder) : Bytes → Option Text
  | [] => some []
  | a :: b :: c :: d :: rest =>
    let n := Wide.longWord order a b c d
    if n < 0x110000 then (decode32? order rest).map (CodePoint.ofNat n :: ·) else none
  | _ => none

/-- The text of a document. -/
def decode? (bytes : Bytes) : Option Text :=
  match detect bytes with
  | (.utf8, rest) => Utf8.decodeWide? rest
  | (.utf16 order, rest) => (units16? order rest).map pairUp
  | (.utf32 order, rest) => decode32? order rest

/-- The value of a document. -/
def ofBytes? (bytes : Bytes) : Option Json := (decode? bytes).bind read?

end Json

end DartComments
