import DartComments.Compression.Code

/-!
# Compressed blocks

A stream is a sequence of blocks, the last of which says so. A block holds bytes as they are, or
symbols in two codes: one for bytes, for the end of the block and for lengths, one for distances. A
length and a distance stand for bytes that have come before.

    literals 97 98, length 6, distance 2     ab ababab

A stream that is cut off is no fault: what has been read of it counts. What cannot be a stream is
one.
-/

namespace DartComments

/-- What is wrong with compressed bytes. -/
inductive StreamFault where
  | header
  | method
  | headerFlags
  | headerCheck
  | blockKind
  | storedLength
  | tooManySymbols
  | lengthCode
  | lengthRepeat
  | noEndOfBlock
  | literalCode
  | distanceCode
  | literalSymbol
  | distanceSymbol
  | tooFarBack
  | dataCheck
  | dataLength
deriving DecidableEq

def StreamFault.message (f : StreamFault) : Text :=
  "Error -3 while decompressing data: " ++
    match f with
    | .header => "incorrect header check"
    | .method => "unknown compression method"
    | .headerFlags => "unknown header flags set"
    | .headerCheck => "header crc mismatch"
    | .blockKind => "invalid block type"
    | .storedLength => "invalid stored block lengths"
    | .tooManySymbols => "too many length or distance symbols"
    | .lengthCode => "invalid code lengths set"
    | .lengthRepeat => "invalid bit length repeat"
    | .noEndOfBlock => "invalid code -- missing end-of-block"
    | .literalCode => "invalid literal/lengths set"
    | .distanceCode => "invalid distances set"
    | .literalSymbol => "invalid literal/length code"
    | .distanceSymbol => "invalid distance code"
    | .tooFarBack => "invalid distance too far back"
    | .dataCheck => "incorrect data check"
    | .dataLength => "incorrect length check"

namespace Deflate

/-- Why reading stops. -/
inductive Stop where
  | cut
  | fault (f : StreamFault)

abbrev Reader := StateT Bits (Except Stop)

def fail {α : Type} (f : StreamFault) : Reader α := throw (.fault f)

/-- The number in the next `n` bits. -/
def number (n : Nat) : Reader Nat := do
  match Bits.take? n (← get) with
  | some (value, rest) =>
    set rest
    pure value
  | none => throw .cut

/-- The next symbol of a code. -/
def symbol (tree : CodeTree) (f : StreamFault) : Reader Nat := do
  match tree.walk (← get) with
  | .symbol s rest =>
    set rest
    pure s
  | .lost _ => fail f
  | .cut => throw .cut

/-! ## Codes -/

/-- The codes of a block. -/
structure Codes where
  literals : CodeTree
  distances : CodeTree

/-- The codes of a block that tells none. -/
def usualCodes : Codes where
  literals := .ofLengths
    (List.replicate 144 8 ++ List.replicate 112 9 ++ List.replicate 24 7 ++ List.replicate 8 8)
  distances := .ofLengths (List.replicate 32 5)

/-- The order in which the lengths for the code of lengths come. -/
def lengthOrder : List Nat := [16, 17, 18, 0, 8, 7, 9, 6, 10, 5, 11, 4, 12, 3, 13, 2, 14, 1, 15]

/-- The code of lengths, of which `n` lengths are told. -/
def lengthTree (n : Nat) : Reader CodeTree := do
  let told ← (lengthOrder.take n).mapM fun s => do pure (s, ← number 3)
  let lengths := (List.range lengthOrder.length).map fun s => (told.lookup s).getD 0
  if CodeTree.isComplete false lengths then pure (.ofLengths lengths) else fail .lengthCode

/-- The next symbol of the code of lengths. One without symbols has nothing but zeros. -/
def lengthSymbol (tree : CodeTree) : Reader Nat := do
  match tree.walk (← get) with
  | .symbol s rest =>
    set rest
    pure s
  | .lost rest =>
    set rest
    pure 0
  | .cut => throw .cut

/-- The lengths that a symbol stands for after others, the last of which is `last`. -/
def lengthRun (last : Option Nat) (s : Nat) : Reader (List Nat) :=
  match s, last with
  | 16, some l => do pure (List.replicate ((← number 2) + 3) l)
  | 16, none => do
    let _ ← number 2
    fail .lengthRepeat
  | 17, _ => do pure (List.replicate ((← number 3) + 3) 0)
  | 18, _ => do pure (List.replicate ((← number 7) + 11) 0)
  | _, _ => pure [s]

/-- The lengths of two codes, `count` in all, after those in `done`, which is in reverse. Each step
has at least one, so that as many steps are enough. -/
def lengths (tree : CodeTree) (count : Nat) : Nat → List Nat → Reader (List Nat)
  | 0, done => pure done.reverse
  | steps + 1, done => do
    if count ≤ done.length then pure done.reverse
    else
      let run ← lengthRun done.head? (← lengthSymbol tree)
      if count < done.length + run.length then fail .lengthRepeat
      else lengths tree count steps (run ++ done)

/-- The codes that a block tells. -/
def toldCodes : Reader Codes := do
  let literals := (← number 5) + 257
  let distances := (← number 5) + 1
  let tree := (← number 4) + 4
  if 286 < literals || 30 < distances then fail .tooManySymbols
  let tree ← lengthTree tree
  let all ← lengths tree (literals + distances) (literals + distances) []
  let (ofLiterals, ofDistances) := all.splitAt literals
  if ofLiterals[256]?.getD 0 = 0 then fail .noEndOfBlock
  if !CodeTree.isComplete true ofLiterals then fail .literalCode
  if !CodeTree.isComplete true ofDistances then fail .distanceCode
  pure ⟨.ofLengths ofLiterals, .ofLengths ofDistances⟩

/-! ## Symbols -/

/-- The least number that a symbol stands for, and how many bits tell how much more it is. -/
structure Scale where
  base : Nat
  extra : Nat

/-- Scales one after the other, each with these extra bits. -/
def scales (base : Nat) : List Nat → List Scale
  | [] => []
  | extra :: rest => ⟨base, extra⟩ :: scales (base + Nat.pow 2 extra) rest

/-- The lengths. The largest has a symbol of its own. -/
def lengthScales : List Scale :=
  scales 3 (List.replicate 8 0 ++ [1, 2, 3, 4, 5].flatMap (List.replicate 4)) ++ [⟨258, 0⟩]

def distanceScales : List Scale :=
  scales 1 (List.replicate 4 0 ++ ((List.range 13).map (· + 1)).flatMap (List.replicate 2))

/-- The number that a symbol stands for. -/
def scaled (scales : List Scale) (s : Nat) (f : StreamFault) : Reader Nat :=
  match scales[s]? with
  | some scale => do pure (scale.base + (← number scale.extra))
  | none => fail f

/-- Bytes that have come before: how many, and how far back. -/
structure Reference where
  length : Nat
  distance : Nat

/-- What is in a block of symbols. -/
inductive Part where
  | byte (b : UInt8)
  | reference (r : Reference)
  | stop

/-- The next part of a block. -/
def part (codes : Codes) : Reader Part := do
  let s ← symbol codes.literals .literalSymbol
  if s < 256 then pure (.byte (UInt8.ofNat s))
  else if s = 256 then pure .stop
  else
    let length ← scaled lengthScales (s - 257) .literalSymbol
    let distance ← scaled distanceScales (← symbol codes.distances .distanceSymbol) .distanceSymbol
    pure (.reference ⟨length, distance⟩)

/-- Repeats `length` bytes from `distance` back; the ones it writes count too. -/
def repeatBack (output : Array UInt8) (distance : Nat) : Nat → Array UInt8
  | 0 => output
  | length + 1 =>
    repeatBack (output.push (output[output.size - distance]?.getD 0)) distance length

/-! ## Blocks -/

/-- What has been read: the bytes, and the bits that follow, unless the stream is cut off. -/
structure Progress where
  output : Array UInt8
  rest : Option Bits

/-- The parts of a block, of which there are no more than there are bits. -/
def parts (codes : Codes) : Nat → Array UInt8 → Bits → Except StreamFault Progress
  | 0, output, _ => .ok ⟨output, none⟩
  | steps + 1, output, bits =>
    match (part codes).run bits with
    | .error .cut => .ok ⟨output, none⟩
    | .error (.fault f) => .error f
    | .ok (.stop, rest) => .ok ⟨output, some rest⟩
    | .ok (.byte b, rest) => parts codes steps (output.push b) rest
    | .ok (.reference r, rest) =>
      if output.size < r.distance then .error .tooFarBack
      else parts codes steps (repeatBack output r.distance r.length) rest

/-- How a block starts. -/
inductive Opening where
  | stored (length : Nat)
  | coded (codes : Codes)

/-- The start of a block, and whether it is the last one. -/
def opening : Reader (Bool × Opening) := do
  let last ← number 1
  let kind ← number 2
  let o ← match kind with
    | 0 => do
      modify Bits.align
      let length ← number 16
      let inverse ← number 16
      if length + inverse = 0xFFFF then pure (.stored length) else fail .storedLength
    | 1 => pure (.coded usualCodes)
    | 2 => Opening.coded <$> toldCodes
    | _ => fail .blockKind
  pure (last = 1, o)

/-- The rest of a block. -/
def body (output : Array UInt8) (bits : Bits) : Opening → Except StreamFault Progress
  | .stored length =>
    let (bytes, rest) := Bits.takeBytes length bits
    .ok ⟨output ++ bytes, if bytes.length < length then none else some rest⟩
  | .coded codes => parts codes (bits.length + 1) output bits

/-- The blocks of a stream, of which there are no more than there are bits. -/
def blocks : Nat → Array UInt8 → Bits → Except StreamFault Progress
  | 0, output, _ => .ok ⟨output, none⟩
  | steps + 1, output, bits =>
    match opening.run bits with
    | .error .cut => .ok ⟨output, none⟩
    | .error (.fault f) => .error f
    | .ok ((last, o), rest) => do
      let p ← body output rest o
      match last, p.rest with
      | false, some rest => blocks steps p.output rest
      | _, _ => pure p

/-- The bytes of a stream, and the bits from the next full byte after it. -/
def read (bytes : Bytes) : Except StreamFault Progress := do
  let bits := Bits.ofBytes bytes
  let p ← blocks (bits.length + 1) #[] bits
  pure { p with rest := p.rest.map Bits.align }

end Deflate

end DartComments
