import DartComments.Text.Composed
import DartComments.Text.Direction
import DartComments.Text.Punycode
import DartComments.Web.LabelPoint

/-!
# Host names in all scripts

The name of a host is made of labels with points between them. A label with other code points than
ASCII is sent as ASCII, marked by `xn--` in front. Before that it has to be a proper label:
composed, without hyphens at its ends or in the places of the mark, not beginning with a combining
mark, made of the code points that are allowed, and written in one direction.
-/

namespace DartComments

namespace Label

/-! ## Code points that need certain surroundings -/

/-- Does a joiner fit between `before`, which is in reverse, and `after`? The mark of a joined
consonant may always stand before it. A separator of letters also fits between two letters that
would join. -/
def fitsJoiner (separates : Bool) (before after : Text) : Bool :=
  (before.head?.any fun c => c.markClass = 9) ||
    (separates &&
      ((before.dropWhile CodePoint.isNonspacing).head?.any
        (LabelPoint.isIn LabelPoint.joinsNext)) &&
      ((after.dropWhile CodePoint.isNonspacing).head?.any
        (LabelPoint.isIn LabelPoint.joinsPrevious)))

/-- The digits of Arabic, and those of Persian and Urdu. -/
def arabicDigits : List (Nat × Nat) := [(0x660, 0x669)]

def persianDigits : List (Nat × Nat) := [(0x6F0, 0x6F9)]

/-- May a code point of a label stand between `before`, which is in reverse, and `after`? -/
def fits (label before : Text) (c : CodePoint) (after : Text) : Bool :=
  let n := c.toNat
  if LabelPoint.isAllowed c then true
  else if n = 0x200C then fitsJoiner true before after
  else if n = 0x200D then fitsJoiner false before after
  else if n = 0xB7 then before.head? = some (.char 'l') && after.head? = some (.char 'l')
  else if n = 0x375 then after.head?.any (LabelPoint.isIn LabelPoint.greek)
  else if n = 0x5F3 || n = 0x5F4 then before.head?.any (LabelPoint.isIn LabelPoint.hebrew)
  else if n = 0x30FB then
    label.any fun d => d ≠ c && LabelPoint.isIn LabelPoint.japanese d
  else if LabelPoint.isIn arabicDigits c then !label.any (LabelPoint.isIn persianDigits)
  else if LabelPoint.isIn persianDigits c then !label.any (LabelPoint.isIn arabicDigits)
  else false

/-- Do all code points fit, from the place where `before` has been read? -/
def allFit (label before : Text) : Text → Bool
  | [] => true
  | c :: after => fits label before c after && allFit label (c :: before) after

/-! ## Labels -/

def hyphen : CodePoint := .char '-'

/-- Are there no hyphens at the ends or in the third and fourth place? -/
def hyphensFit (t : Text) : Bool :=
  t.slice 2 4 ≠ [hyphen, hyphen] && t.head? ≠ some hyphen && t.getLast? ≠ some hyphen

/-- Is this a proper label? -/
def isProper (t : Text) : Bool :=
  match t with
  | [] => false
  | first :: _ =>
    t.isComposed && hyphensFit t && !first.isMark && allFit t [] t &&
      Direction.areConsistent (.ofPoint first) (t.map .ofPoint)

/-- The mark of a label that is sent as ASCII. -/
def mark : Text := "xn--"

/-- Is a label of ASCII a proper one, or does it stand for one? -/
def isProperAscii (t : Text) : Bool :=
  let t := t.toLowerAscii
  if mark.isPrefixOf t then
    let rest := t.drop mark.length
    !rest.isEmpty && rest.getLast? ≠ some hyphen && (Punycode.decode? rest).any isProper
  else isProper t

/-- The longest label. -/
def maxLength : Nat := 63

/-- The label as it is sent. -/
def encode? (t : Text) : Option Text :=
  let sent := if t.all CodePoint.isAscii then t else mark ++ Punycode.encode t
  let proper := if t.all CodePoint.isAscii then isProperAscii t else isProper t
  if proper && sent.length ≤ maxLength then some sent else none

end Label

namespace HostName

/-- Points, in the forms of several scripts, as one. -/
def point (c : CodePoint) : CodePoint :=
  if [0x3002, 0xFF0E, 0xFF61].contains c.toNat then .char '.' else c

/-- The longest name, the point at its end not counted. -/
def maxLength : Nat := 253

/-- The name of a host as it is sent; a point at the end stays. -/
def encode? (t : Text) : Option Text := do
  let labels := (t.map point).splitOn (.char '.')
  let rooted := 1 < labels.length && labels.getLast? = some []
  let sent ← (if rooted then labels.dropLast else labels).mapM Label.encode?
  let name := Text.join [.char '.'] sent
  if name.length ≤ maxLength then some (if rooted then name ++ [.char '.'] else name) else none

end HostName

end DartComments
