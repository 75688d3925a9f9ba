import DartComments.Compression.Deflate

/-!
# Envelopes of compressed bytes

A stream of blocks comes between a header and a trailer with a check of the bytes. There are two
such envelopes, and a stream can also come without any. What follows a stream does not count, and a
check that is cut off is not made.
-/

namespace DartComments

namespace Checksum

/-- One more byte of a cyclic check. -/
def cyclicStep (crc : UInt32) (b : UInt8) : UInt32 :=
  (List.range 8).foldl
    (fun c _ => if c &&& 1 = 1 then (c >>> 1) ^^^ 0xEDB88320 else c >>> 1) (crc ^^^ b.toUInt32)

/-- The cyclic check of bytes. -/
def cyclic (bytes : Bytes) : Nat := ((bytes.foldl cyclicStep 0xFFFFFFFF) ^^^ 0xFFFFFFFF).toNat

/-- The sum of bytes, and the sum of the sums on the way, both modulo a prime. -/
def sums (bytes : Bytes) : Nat :=
  let (a, b) := bytes.foldl (fun (a, b) x =>
    let a := (a + x.toNat) % 65521
    (a, (b + a) % 65521)) (1, 0)
  b * 65536 + a

end Checksum

namespace Envelope

open Deflate

/-- A number of `n` bytes, the least significant first. -/
def little (n : Nat) : Reader Nat := number (8 * n)

/-- A number of `n` bytes, the most significant first. -/
def big : Nat → Reader Nat
  | 0 => pure 0
  | n + 1 => do
    let first ← number 8
    pure (first * Nat.pow 256 n + (← big n))

/-- The bits after the next byte of zeros. -/
def skipName : Nat → Reader Unit
  | 0 => throw .cut
  | steps + 1 => do
    if (← number 8) ≠ 0 then skipName steps

/-- The header of the envelope with a cyclic check. -/
def cyclicHeader (bytes : Bytes) : Reader Unit := do
  if (← little 2) ≠ 0x8B1F then fail .header
  let method ← number 8
  let flags ← number 8
  if method ≠ 8 then fail .method
  if 0x20 ≤ flags then fail .headerFlags
  let _ ← little 6
  if flags.testBit 2 then
    let length ← little 2
    let _ ← little length
  if flags.testBit 3 then skipName (bytes.length + 1)
  if flags.testBit 4 then skipName (bytes.length + 1)
  if flags.testBit 1 then
    let header := bytes.take (bytes.length - (← get).length / 8)
    if (← little 2) ≠ Checksum.cyclic header % 65536 then fail .headerCheck

/-- The trailer of the envelope with a cyclic check. -/
def cyclicTrailer (output : Bytes) : Reader Unit := do
  if (← little 4) ≠ Checksum.cyclic output then fail .dataCheck
  if (← little 4) ≠ output.length % Nat.pow 2 32 then fail .dataLength

/-- The header of the envelope with a check of sums. A dictionary to begin with is not known. -/
def sumsHeader : Reader Unit := do
  let method ← number 8
  let flags ← number 8
  if (method * 256 + flags) % 31 ≠ 0 || 8 ≤ method / 16 then fail .header
  if method % 16 ≠ 8 then fail .method
  if flags.testBit 5 then
    let _ ← big 4
    fail .header

/-- The trailer of the envelope with a check of sums. -/
def sumsTrailer (output : Bytes) : Reader Unit := do
  if (← big 4) ≠ Checksum.sums output then fail .dataCheck

/-- The bytes in an envelope. -/
def unpack (header : Reader Unit) (trailer : Bytes → Reader Unit) (bytes : Bytes) :
    Except StreamFault Bytes :=
  let bits := Bits.ofBytes bytes
  match header.run bits with
  | .error .cut => .ok []
  | .error (.fault f) => .error f
  | .ok (_, rest) => do
    let p ← Deflate.read (bytes.drop ((bits.length - rest.length) / 8))
    let output := p.output.toList
    match p.rest.map (trailer output).run with
    | some (.error (.fault f)) => .error f
    | _ => .ok output

/-- The bytes in an envelope with a cyclic check. -/
def openCyclic (bytes : Bytes) : Except StreamFault Bytes :=
  unpack (cyclicHeader bytes) cyclicTrailer bytes

/-- The bytes in an envelope with a check of sums. -/
def openSums (bytes : Bytes) : Except StreamFault Bytes := unpack sumsHeader sumsTrailer bytes

/-- The bytes of a stream without an envelope. -/
def openBare (bytes : Bytes) : Except StreamFault Bytes :=
  unpack (pure ()) (fun _ => pure ()) bytes

end Envelope

/-- How the body of a reply is packed. -/
inductive Coding where
  | cyclic
  | sums
deriving DecidableEq

namespace Coding

/-- The coding of a name; a body in one that is not known is left as it is. -/
def ofName? (name : Text) : Option Coding :=
  if name = "gzip" then some .cyclic else if name = "deflate" then some .sums else none

/-- Unpacks bytes; nothing is in no bytes. What is no envelope with a check of sums may be a stream
without one. -/
def decode (c : Coding) (bytes : Bytes) : Except StreamFault Bytes :=
  match c with
  | .cyclic => Envelope.openCyclic bytes
  | .sums => match Envelope.openSums bytes with
    | .ok output => .ok output
    | .error _ => Envelope.openBare bytes

end Coding

end DartComments
