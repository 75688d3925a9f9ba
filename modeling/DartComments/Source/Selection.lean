import DartComments.Text.Basic

/-!
# Selecting from a sequence

Items of a sequence by signed index, where negative ones count from the end, and by slices with a
start, a stop and a step, any of which may be left out.
-/

namespace DartComments

inductive SelectionError where
  | indexOutOfRange
  | zeroStep
  | absent
deriving DecidableEq

def SelectionError.message : SelectionError → Text
  | .indexOutOfRange => "tuple index out of range"
  | .zeroStep => "slice step cannot be zero"
  | .absent => []

namespace Selection

variable {α : Type}

/-- A signed index as a position in a sequence of length `n`. -/
def position? (n : Nat) (i : Int) : Option Nat :=
  let j := if i < 0 then i + n else i
  if 0 ≤ j ∧ j < n then some j.toNat else none

/-- The item at a signed index. -/
def item (xs : List α) (i : Int) : Except SelectionError α :=
  match (position? xs.length i).bind (xs[·]?) with
  | some x => .ok x
  | none => .error .indexOutOfRange

/-- A bound of a slice, brought between `lo` and `hi`. -/
def clamp (n : Nat) (lo hi : Int) (bound : Int) : Int :=
  let b := if bound < 0 then bound + n else bound
  max lo (min hi b)

/-- The positions `from, from + step, …` that lie before `stop` in the direction of the step. -/
def positions (start stop step : Int) : List Nat :=
  let count :=
    if 0 < step then (stop - start + step - 1) / step else (start - stop - step - 1) / (-step)
  (List.range count.toNat).map fun k : Nat => (start + step * (k : Int)).toNat

/-- The items of a slice. -/
def slice (xs : List α) (start stop step : Option Int) : Except SelectionError (List α) :=
  let n := xs.length
  let step := step.getD 1
  if step = 0 then .error .zeroStep
  else
    let (lo, hi) : Int × Int := if 0 < step then (0, n) else (-1, n - 1)
    let first := (start.map (clamp n lo hi)).getD (if 0 < step then lo else hi)
    let last := (stop.map (clamp n lo hi)).getD (if 0 < step then hi else lo)
    .ok ((positions first last step).filterMap (xs[·]?))

/-- The position of the first item equal to `x`. -/
def indexOf [DecidableEq α] (xs : List α) (x : α) : Except SelectionError Nat :=
  match xs.findIdx? (· = x) with
  | some i => .ok i
  | none => .error .absent

end Selection

end DartComments
