import DartComments.Text.Utf8

/-!
# Byte offsets and code point offsets

Syntax trees count bytes, texts count code points. For a source that is not plain ASCII a table
gives, for each byte, the index of the code point it belongs to, and at the end the length of the
text. In an ASCII source the two counts agree, and every offset stands for itself.
-/

namespace DartComments

/-- The converter of one source: a table, or nothing to do. -/
structure Offsets where
  table : Option (List Nat)

/-- An offset for which the table has no entry. -/
inductive OffsetError where
  | outOfRange
deriving DecidableEq

def OffsetError.message : OffsetError → Text
  | .outOfRange => "list index out of range"

namespace Offsets

/-- The index of each byte's code point, from index `i` on, and the number of code points. -/
def tableFrom (i : Nat) : Text → List Nat
  | [] => [i]
  | c :: cs => List.replicate (Utf8.encodePoint c).length i ++ tableFrom (i + 1) cs

def isAscii (bytes : Bytes) : Bool := bytes.all (· < 128)

def ofBytes (bytes : Bytes) : Offsets :=
  ⟨if isAscii bytes then none else some (tableFrom 0 (Utf8.decodeEscaped bytes))⟩

/-- An entry of the table; negative offsets count from its end. -/
def entry? (table : List Nat) (offset : Int) : Option Nat :=
  if 0 ≤ offset then table[offset.toNat]?
  else if 0 ≤ offset + table.length then table[(offset + table.length).toNat]?
  else none

/-- The code point offset of a byte offset. -/
def convert (o : Offsets) (offset : Int) : Except OffsetError Int :=
  match o.table with
  | none => .ok offset
  | some table =>
    match entry? table offset with
    | some n => .ok n
    | none => .error .outOfRange

end Offsets

end DartComments
