import DartComments.Text.Utf8

/-!
# Grids of characters

The characters of East Asian charsets stand in rows of at most 94 cells, and two bytes tell a row
and a cell. Some charsets add strips of cells to a grid, and some give the cells that are left to
the characters that are left, in their order.
-/

namespace DartComments

namespace Charset

/-- Rows of cells. A space is an empty cell. -/
structure Grid where
  rows : Array String

/-- The character with an index in a row. -/
def cellOf (row : String) (i : Nat) : Option Nat :=
  (row.toList[i]?).bind fun c => if c = ' ' then none else some c.toNat

namespace Grid

def cell? (g : Grid) (row column : Nat) : Option Nat := (g.rows[row]?).bind (cellOf · column)

/-- All the characters of a grid. -/
def characters (g : Grid) : List Nat :=
  g.rows.toList.flatMap fun row => (row.toList.filter (· ≠ ' ')).map Char.toNat

end Grid

/-- Cells that follow the one of a two-byte code, with the code of the first. -/
structure Strip where
  first : Nat
  cells : String

namespace Strip

def cell? (strips : List Strip) (code : Nat) : Option Nat :=
  strips.findSome? fun s => if s.first ≤ code then cellOf s.cells (code - s.first) else none

/-- All the characters of strips. -/
def characters (strips : List Strip) : List Nat :=
  strips.flatMap fun s => (s.cells.toList.filter (· ≠ ' ')).map Char.toNat

end Strip

/-- The numbers from `first` to `last`. -/
def interval (first last : Nat) : List Nat := (List.range (last + 1 - first)).map (· + first)

/-- The numbers from `first` to `last` that are not used, in their order. -/
def unused (first last : Nat) (used : List Nat) : Array Nat :=
  let free := used.foldl (·.setIfInBounds · false) (Array.replicate (last + 1) true)
  (interval first last).toArray.filter fun n => free[n]?.getD false

end Charset

end DartComments
