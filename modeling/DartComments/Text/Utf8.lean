import DartComments.Text.Basic

/-!
# Bytes and texts

UTF-8 in the three ways the program reads it. A well-formed sequence is a character in each;
they differ in what becomes of the other bytes.

* `decodeEscaped`: such a byte `b` is kept as the surrogate `0xDC00 + b`. This is how sources
  are read, and `encodeEscaped` restores the bytes.
* `decodeLossy`: the longest prefix of a sequence that breaks off is one replacement character.
* `decodeWide?`: encoded surrogates are accepted, anything else ill-formed is refused.

A text with surrogates has no UTF-8 form of its own, so the encoders can fail; a failure names
the first run of code points that could not be written.
-/

namespace DartComments

abbrev Bytes := List UInt8

namespace Utf8

/-! ## Sequences -/

def isContinuation (b : UInt8) : Bool := 0x80 ≤ b.toNat && b.toNat ≤ 0xBF

/-- May `b1` follow the leading byte `b0`? Rules out overlong forms, surrogates and values
above `0x10FFFF`. -/
def isSecond (b0 b1 : UInt8) : Bool :=
  let lo := if b0 = 0xE0 then 0xA0 else if b0 = 0xF0 then 0x90 else 0x80
  let hi := if b0 = 0xED then 0x9F else if b0 = 0xF4 then 0x8F else 0xBF
  lo ≤ b1.toNat && b1.toNat ≤ hi

/-- The number of bytes that follow a leading byte, if it is one. -/
def following? (b0 : UInt8) : Option Nat :=
  let n := b0.toNat
  if n < 0x80 then some 0
  else if n < 0xC2 then none
  else if n < 0xE0 then some 1
  else if n < 0xF0 then some 2
  else if n < 0xF5 then some 3
  else none

/-- Low six bits of a continuation byte. -/
def payload (b : UInt8) : Nat := b.toNat - 0x80

/-- The character whose well-formed sequence starts with `b0` and goes on in `rest`, with the
number of bytes it takes from `rest`. -/
def sequence? (b0 : UInt8) (rest : Bytes) : Option (Char × Nat) :=
  match following? b0, rest with
  | some 0, _ => some (Char.ofNat b0.toNat, 0)
  | some 1, b1 :: _ =>
    if isSecond b0 b1 then some (Char.ofNat ((b0.toNat - 0xC0) * 64 + payload b1), 1) else none
  | some 2, b1 :: b2 :: _ =>
    if isSecond b0 b1 && isContinuation b2 then
      some (Char.ofNat (((b0.toNat - 0xE0) * 64 + payload b1) * 64 + payload b2), 2)
    else none
  | some 3, b1 :: b2 :: b3 :: _ =>
    if isSecond b0 b1 && isContinuation b2 && isContinuation b3 then
      some (Char.ofNat
        ((((b0.toNat - 0xF0) * 64 + payload b1) * 64 + payload b2) * 64 + payload b3), 3)
    else none
  | _, _ => none

/-- The bytes of a character. -/
def encodeChar (c : Char) : Bytes :=
  let n := c.toNat
  if n < 0x80 then [n.toUInt8]
  else if n < 0x800 then [(0xC0 + n / 64).toUInt8, (0x80 + n % 64).toUInt8]
  else if n < 0x10000 then
    [(0xE0 + n / 4096).toUInt8, (0x80 + n / 64 % 64).toUInt8, (0x80 + n % 64).toUInt8]
  else
    [(0xF0 + n / 262144).toUInt8, (0x80 + n / 4096 % 64).toUInt8, (0x80 + n / 64 % 64).toUInt8,
      (0x80 + n % 64).toUInt8]

/-! ## Decoding -/

/-- Reads bytes with `step`, which sees the next byte and the rest and says which code point
they start with and how many more bytes it takes. -/
def decodeWith (step : UInt8 → Bytes → CodePoint × Nat) : Nat → Bytes → Text
  | _, [] => []
  | skip + 1, _ :: rest => decodeWith step skip rest
  | 0, b :: rest => (step b rest).1 :: decodeWith step (step b rest).2 rest

/-- The surrogate that stands for an undecodable byte. -/
def escape (b : UInt8) : CodePoint := .surrogate ⟨0x400 + b.toNat, by have := b.toNat_lt; omega⟩

/-- One step of `decodeEscaped`. -/
def escapedStep (b : UInt8) (rest : Bytes) : CodePoint × Nat :=
  match sequence? b rest with
  | some (c, k) => (.char c, k)
  | none => (escape b, 0)

/-- Every byte outside a well-formed sequence is kept as a surrogate. -/
def decodeEscaped (bytes : Bytes) : Text := decodeWith escapedStep 0 bytes

/-- How many bytes after `b0` still look like the sequence that `b0` starts. -/
def brokenTail (b0 : UInt8) (rest : Bytes) : Nat :=
  match following? b0, rest with
  | some 2, b1 :: _ => if isSecond b0 b1 then 1 else 0
  | some 3, b1 :: b2 :: _ => if isSecond b0 b1 then (if isContinuation b2 then 2 else 1) else 0
  | some 3, [b1] => if isSecond b0 b1 then 1 else 0
  | _, _ => 0

/-- One step of `decodeLossy`. -/
def lossyStep (b : UInt8) (rest : Bytes) : CodePoint × Nat :=
  match sequence? b rest with
  | some (c, k) => (.char c, k)
  | none => (.char '\uFFFD', brokenTail b rest)

/-- Every sequence that breaks off is one replacement character. -/
def decodeLossy (bytes : Bytes) : Text := decodeWith lossyStep 0 bytes

/-- The code point at the head of the bytes when encoded surrogates are accepted. -/
def wideStep? (b : UInt8) (rest : Bytes) : Option (CodePoint × Nat) :=
  match sequence? b rest with
  | some (c, k) => some (.char c, k)
  | none =>
    match rest with
    | b1 :: b2 :: _ =>
      if b = 0xED && 0xA0 ≤ b1.toNat && b1.toNat ≤ 0xBF && isContinuation b2 then
        some (CodePoint.ofNat ((0xD * 64 + payload b1) * 64 + payload b2), 2)
      else none
    | _ => none

def decodeWideFrom? : Nat → Bytes → Option Text
  | _, [] => some []
  | skip + 1, _ :: rest => decodeWideFrom? skip rest
  | 0, b :: rest => do
    let (c, k) ← wideStep? b rest
    let cs ← decodeWideFrom? k rest
    pure (c :: cs)

/-- Accepts well-formed sequences and encoded surrogates only. -/
def decodeWide? (bytes : Bytes) : Option Text := decodeWideFrom? 0 bytes

end Utf8

/-! ## Encoding -/

inductive Codec where
  | ascii
  | utf8
deriving DecidableEq

/-- Code points `first` to `last` of a text could not be written; `point` is the one at `first`. -/
structure Unencodable where
  codec : Codec
  first : Nat
  last : Nat
  point : CodePoint
deriving DecidableEq

namespace Unencodable

/-- A code point as a hexadecimal escape. -/
def escaped (c : CodePoint) : Text :=
  let n := c.toNat
  if n < 0x100 then "\\x" ++ Text.hex 2 n
  else if n < 0x10000 then "\\u" ++ Text.hex 4 n
  else "\\U" ++ Text.hex 8 n

def codecName : Codec → Text
  | .ascii => "ascii"
  | .utf8 => "utf-8"

def reason : Codec → Text
  | .ascii => "ordinal not in range(128)"
  | .utf8 => "surrogates not allowed"

def message (e : Unencodable) : Text :=
  let what : Text :=
    if e.first = e.last then
      "character '" ++ escaped e.point ++ "' in position " ++ Text.ofNat e.first
    else "characters in position " ++ Text.ofNat e.first ++ "-" ++ Text.ofNat e.last
  "'" ++ codecName e.codec ++ "' codec can't encode " ++ what ++ ": " ++ reason e.codec

/-- The first code point that is `bad`, with the `inRun` code points that follow it. -/
def find? (codec : Codec) (bad inRun : CodePoint → Bool) : Nat → Text → Option Unencodable
  | _, [] => none
  | pos, c :: cs =>
    if bad c then some ⟨codec, pos, pos + (cs.takeWhile inRun).length, c⟩
    else find? codec bad inRun (pos + 1) cs

end Unencodable

namespace Utf8

/-- The byte that a surrogate stands for, if it stands for one. -/
def unescape? : CodePoint → Option UInt8
  | .char _ => none
  | .surrogate i => if 0x480 ≤ i.val ∧ i.val < 0x500 then some (i.val - 0x400).toUInt8 else none

/-- The bytes of a code point; a surrogate that stands for no byte has none. -/
def encodePoint : CodePoint → Bytes
  | .char c => encodeChar c
  | s => (unescape? s).toList

/-- Is this a surrogate that stands for no byte? -/
def isStray (c : CodePoint) : Bool := c.isSurrogate && (unescape? c).isNone

/-- UTF-8 of a text without surrogates. -/
def encode (t : Text) : Except Unencodable Bytes :=
  match Unencodable.find? .utf8 CodePoint.isSurrogate CodePoint.isSurrogate 0 t with
  | some e => .error e
  | none => .ok (t.flatMap encodePoint)

/-- UTF-8 with the surrogates that stand for bytes written as these bytes. -/
def encodeEscaped (t : Text) : Except Unencodable Bytes :=
  match Unencodable.find? .utf8 isStray CodePoint.isSurrogate 0 t with
  | some e => .error e
  | none => .ok (t.flatMap encodePoint)

end Utf8

/-- One byte per character below 128. -/
def Ascii.encode (t : Text) : Except Unencodable Bytes :=
  match Unencodable.find? .ascii (! CodePoint.isAscii ·) (! CodePoint.isAscii ·) 0 t with
  | some e => .error e
  | none => .ok (t.map (·.toNat.toUInt8))

end DartComments
