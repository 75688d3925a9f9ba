import DartComments.Text.Digit

/-!
# Numeric addresses

An address of four numbers up to 255, and an address of eight groups of hexadecimal digits, of which
a run may be left out once. The last two groups may be written as four numbers, and a zone may
follow a percent sign.
-/

namespace DartComments

namespace Address

/-! ## Four numbers -/

/-- One of the four numbers: no sign and no leading zero. -/
def isOctet (t : Text) : Bool :=
  match t.mapM CodePoint.asciiDigit? with
  | some (d :: ds) =>
    ds.length < 3 && (d ≠ 0 || ds.isEmpty) && Text.ofDigitValues (d :: ds) ≤ 255
  | _ => false

/-- Four numbers with points between them. -/
def isQuad (t : Text) : Bool :=
  let parts := t.splitOn (.char '.')
  parts.length = 4 && parts.all isOctet

/-- How four runs of digits, with one code point between each two of them, may have been read so
far: which runs are due to begin, and which have begun. -/
structure Runs where
  due : List Bool
  begun : List Bool

def Runs.start : Runs := ⟨[true, false, false, false], [false, false, false, false]⟩

/-- The runs after one more code point, which may belong to a run if it is a digit, and may stand
between two of them whatever it is. -/
def Runs.next (r : Runs) (c : CodePoint) : Runs where
  due := (false :: r.begun).take 4
  begun := (r.due.zip r.begun).map fun (due, begun) => c.asciiDigit?.isSome && (due || begun)

/-- Has a host the look of four numbers? What stands between them may be anything. -/
def hasQuadShape (t : Text) : Bool := ((t.foldl Runs.next Runs.start).begun.getLast?).getD false

/-! ## Eight groups -/

/-- One group: one to four digits. -/
def isGroup (t : Text) : Bool := !t.isEmpty && t.length ≤ 4 && t.all (·.hexDigit?.isSome)

/-- The parts of an address between its colons, four numbers at the end as two groups. -/
def groups? (t : Text) : Option (List Text) :=
  let parts := t.splitOn (.char ':')
  match parts.getLast? with
  | some last =>
    if parts.length < 3 then none
    else if last.contains (.char '.') then
      if isQuad last then some (parts.dropLast ++ [[.char '0'], [.char '0']]) else none
    else some parts
  | none => none

/-- Are these the groups before and after the run that is left out? An empty part at the outer end
stands for nothing. -/
def isPair (before after : List Text) : Bool :=
  let high := if before = [[]] then [] else before
  let low := if after = [[]] then [] else after
  (high ++ low).all isGroup && high.length + low.length < 8

/-- The parts of an address: eight groups, or fewer with one empty part inside. -/
def areGroups (parts : List Text) : Bool :=
  let inner := (parts.drop 1).dropLast
  match inner.findIdx? List.isEmpty with
  | none => parts.length = 8 && parts.all isGroup
  | some i =>
    (inner.drop (i + 1)).all (fun p => !p.isEmpty) && parts.length ≤ 9 &&
      isPair (parts.take (i + 1)) (parts.drop (i + 2))

/-- An address without its zone, if the zone is not empty and has no percent sign. -/
def withoutZone? (t : Text) : Option Text :=
  match t.splitOn (.char '%') with
  | [address] => some address
  | [address, zone] => if zone.isEmpty then none else some address
  | _ => none

/-- Is this an address of eight groups? -/
def isGroups (t : Text) : Bool :=
  match (withoutZone? t).bind groups? with
  | some parts => areGroups parts
  | none => false

end Address

end DartComments
