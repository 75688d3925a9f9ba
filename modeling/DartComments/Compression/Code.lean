import DartComments.Text.Utf8

/-!
# Bits and codes

Compressed bytes are read bit by bit, the least significant bit of each byte first. A code gives
bits of its own to each symbol so that no symbol's bits start with another's. It is told by the
length of each symbol's bits alone: in the order of their lengths, and symbols of one length in
their own order, each gets the next number that is free.

A code is kept as a tree, and a symbol is read by walking down from the root.
-/

namespace DartComments

abbrev Bits := List Bool

namespace Bits

/-- The bits of a byte, the least significant first. -/
def ofByte (b : UInt8) : Bits := (List.range 8).map b.toNat.testBit

def ofBytes (bytes : Bytes) : Bits := bytes.flatMap ofByte

/-- The number in the next `n` bits, the least significant first, and the bits after them. -/
def take? : Nat → Bits → Option (Nat × Bits)
  | 0, bits => some (0, bits)
  | _ + 1, [] => none
  | n + 1, b :: rest => (take? n rest).map fun (number, after) => (b.toNat + 2 * number, after)

/-- The bits from the next full byte on. -/
def align (bits : Bits) : Bits := bits.drop (bits.length % 8)

/-- The first bytes, at most `n`, and the bits after them. -/
def takeBytes : Nat → Bits → Bytes × Bits
  | 0, bits => ([], bits)
  | n + 1, bits =>
    match take? 8 bits with
    | none => ([], bits)
    | some (b, after) =>
      let (bytes, rest) := takeBytes n after
      (UInt8.ofNat b :: bytes, rest)

end Bits

inductive CodeTree where
  | empty
  | leaf (symbol : Nat)
  | fork (zero one : CodeTree)

namespace CodeTree

/-- A symbol and its bits. -/
structure Entry where
  bits : Bits
  symbol : Nat

/-- The last `length` bits of a number, the most significant first. -/
def word (length number : Nat) : Bits := ((List.range length).map number.testBit).reverse

/-- Gives bits to symbols in the order of their lengths, when `number` is free among the words of
`length` bits. -/
def assign (length number : Nat) : List (Nat × Nat) → List Entry
  | [] => []
  | (l, symbol) :: rest =>
    let first := number * Nat.pow 2 (l - length)
    ⟨word l first, symbol⟩ :: assign l (first + 1) rest

def insert : CodeTree → Bits → Nat → CodeTree
  | _, [], symbol => .leaf symbol
  | .fork zero one, b :: rest, symbol =>
    if b then .fork zero (one.insert rest symbol) else .fork (zero.insert rest symbol) one
  | _, b :: rest, symbol =>
    if b then .fork .empty (insert .empty rest symbol) else .fork (insert .empty rest symbol) .empty

/-- The code for the lengths of the symbols' bits, a length of zero being that of no symbol. -/
def ofLengths (lengths : List Nat) : CodeTree :=
  let used := lengths.zipIdx.filter (·.1 ≠ 0)
  (assign 0 0 (used.mergeSort fun a b => a.1 ≤ b.1)).foldl (fun t e => t.insert e.bits e.symbol)
    (.fork .empty .empty)

/-- Can these be lengths of a code? All bits must lead to a symbol, except that a code may have no
symbol at all, and where `single` is allowed, one symbol of one bit. -/
def isComplete (single : Bool) (lengths : List Nat) : Bool :=
  let used := lengths.filter (· ≠ 0)
  used.isEmpty || used.foldl (fun n l => n + Nat.pow 2 (15 - l)) 0 = Nat.pow 2 15 ||
    (single && used = [1])

/-- A walk down a tree. -/
inductive Walk where
  | symbol (s : Nat) (rest : Bits)
  /-- No symbol has these bits. -/
  | lost (rest : Bits)
  /-- The bits end before the walk does. -/
  | cut

def walk : CodeTree → Bits → Walk
  | .leaf s, rest => .symbol s rest
  | .empty, rest => .lost rest
  | .fork .., [] => .cut
  | .fork zero one, b :: rest => if b then one.walk rest else zero.walk rest

end CodeTree

end DartComments
