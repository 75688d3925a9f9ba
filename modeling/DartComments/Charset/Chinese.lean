import DartComments.Charset.Hanzi
import DartComments.Charset.HongKong
import DartComments.Charset.Step
import DartComments.Charset.Traditional

/-!
# Chinese charsets

The simplified hanzi stand in a grid. A wider charset puts all the other hanzi before and beside it,
and the widest has two or four bytes for every character there is. The traditional hanzi stand in a
grid of their own, to which a charset of Hong Kong adds another.
-/

namespace DartComments

namespace Charset

/-! ## Simplified hanzi -/

/-- The place of a second byte from `40` on, among which `7F` is not. -/
def trail? (b : Nat) : Option Nat :=
  if 0x40 ≤ b && b < 0x7F then some (b - 0x40)
  else if 0x80 ≤ b && b < 0xFF then some (b - 0x41)
  else none

/-- The hanzi that the grid does not have, in the order in which the wider charset has them. -/
def moreHanzi : Array Nat := unused 0x4E00 0x9FA5 hanzi.characters

/-- The place of two bytes among the hanzi that the grid does not have: first come the rows before
the grid, then what is left of the rows beside it. -/
def moreHanziPlace? (a b : Nat) : Option Nat := do
  let column ← trail? b
  if 0x81 ≤ a && a ≤ 0xA0 then some ((a - 0x81) * 190 + column)
  else if 0xAA ≤ a && b ≤ 0xA0 then some (6080 + (a - 0xAA) * 96 + column)
  else none

/-- Two signs of the grid are others here. -/
def changedSigns : List Strip := [⟨0xA1A4, "·"⟩, ⟨0xA1AA, "—"⟩]

/-- Signs in free cells. -/
def moreSigns : List Strip :=
  [⟨0xA2A1, "ⅰⅱⅲⅳⅴⅵⅶⅷⅸⅹ"⟩, ⟨0xA6E0, "︵︶︹︺︿﹀︽︾﹁﹂﹃﹄  ︻︼︷︸︱ ︳︴"⟩,
    ⟨0xA840, "ˊˋ˙–―‥‵℅℉↖↗↘↙∕∟∣≒≦≧⊿═║╒╓╔╕╖╗╘╙╚╛╜╝╞╟╠╡╢╣╤╥╦╧╨╩╪╫╬╭╮╯╰╱╲╳▁▂▃▄▅▆▇ " ++
      "█▉▊▋▌▍▎▏▓▔▕▼▽◢◣◤◥☉⊕〒〝〞"⟩,
    ⟨0xA8BB, "ɑ ńň ɡ"⟩, ⟨0xA940, "〡〢〣〤〥〦〧〨〩㊣㎎㎏㎜㎝㎞㎡㏄㏎㏑㏒㏕︰￢￤ ℡㈱ ‐"⟩,
    ⟨0xA960, "ー゛゜ヽヾ〆ゝゞ﹉﹊﹋﹌﹍﹎﹏﹐﹑﹒﹔﹕﹖﹗﹙﹚﹛﹜﹝﹞﹟﹠﹡ ﹢﹣﹤﹥﹦﹨﹩﹪﹫"⟩, ⟨0xA996, "〇"⟩,
    ⟨0xFD9C, "郎凉秊裏隣"⟩, ⟨0xFE40, "兀嗀﨎﨏﨑﨓﨔礼﨟蘒﨡﨣﨤﨧﨨﨩"⟩]

/-- The charset that has all the hanzi. -/
def wideHanzi (a b : Nat) : Option Nat :=
  firstOf [Strip.cell? changedSigns (a * 256 + b), high hanzi a b,
    (moreHanziPlace? a b).bind (moreHanzi[·]?), Strip.cell? moreSigns (a * 256 + b)]

/-! ## All characters -/

/-- Signs and parts of hanzi in cells that were free. -/
def lateSigns : List Strip :=
  [⟨0xA2E3, "€"⟩, ⟨0xA8BF, "ǹ"⟩, ⟨0xA989, "〾⿰⿱⿲⿳⿴⿵⿶⿷⿸⿹⿺⿻"⟩, ⟨0xFE50, "⺁"⟩,
    ⟨0xFE54, "⺄㑳㑇⺈⺋ 㖞㘚㘎⺌⺗㥮㤘 㧏㧟㩳㧐  㭎㱮㳠⺧  ⺪䁖䅟⺮䌷⺳⺶⺷ 䎱䎬⺻䏝䓖䙡䙌  " ++
      "䜣䜩䝼䞍⻊䥇䥺䥽䦂䦃䦅䦆䦟䦛䦷䦶  䲣䲟䲠䲡䱷䲢䴓䴔䴕䴖䴗䴘䴙䶮"⟩]

/-- Runs of cells that are still free: the code of the first, and how many. -/
def freeRuns : List (Nat × Nat) :=
  [(0xA2AB, 6), (0xA2E3, 2), (0xA2EF, 2), (0xA2FD, 2), (0xA4F4, 11), (0xA5F7, 8), (0xA6B9, 8),
    (0xA6D9, 7), (0xA6EC, 2), (0xA6F3, 1), (0xA6F6, 9), (0xA7C2, 15), (0xA7F2, 13), (0xA896, 11),
    (0xA8BC, 1), (0xA8BF, 1), (0xA8C1, 4), (0xA8EA, 21), (0xA958, 1), (0xA95B, 1), (0xA95D, 3),
    (0xA989, 13), (0xA997, 13), (0xA9F0, 15), (0xD7FA, 5), (0xFE50, 47), (0xFE80, 33)]

/-- The cells that are still free, by their codes. -/
def freeCells : List Nat :=
  freeRuns.flatMap fun (first, count) => interval first (first + count - 1)

/-- The private character of a cell: whole rows come first, then the cells that are free. -/
def privateCell? (a b : Nat) : Option Nat :=
  if 0xAA ≤ a && a ≤ 0xAF && 0xA1 ≤ b && b < 0xFF then some (0xE000 + (a - 0xAA) * 94 + (b - 0xA1))
  else if 0xF8 ≤ a && a < 0xFF && 0xA1 ≤ b && b < 0xFF then
    some (0xE234 + (a - 0xF8) * 94 + (b - 0xA1))
  else if 0xA1 ≤ a && a ≤ 0xA7 && b ≤ 0xA0 then
    (trail? b).map fun column => 0xE4C6 + (a - 0xA1) * 96 + column
  else (freeCells.idxOf? (a * 256 + b)).map (0xE766 + ·)

/-- A character in two bytes. -/
def fullPair (a b : Nat) : Option Nat :=
  firstOf [wideHanzi a b, Strip.cell? lateSigns (a * 256 + b), privateCell? a b]

/-- The private characters that have two bytes. -/
def privatePairs : List Nat :=
  interval 0xE000 0xE765 ++
    (freeCells.zipIdx.filter fun (code, _) => (Strip.cell? lateSigns code).isNone).map
      (0xE766 + ·.2)

/-- The characters that have no two bytes, in their order. -/
def remaining : Array Nat :=
  unused 0x80 0xFFFF <|
    hanzi.characters.filter (· ≠ 0x30FB) ++ Strip.characters changedSigns ++
      Strip.characters moreSigns ++ Strip.characters lateSigns ++ interval 0x4E00 0x9FA5 ++
      privatePairs ++ interval 0xD800 0xDFFF

/-- A character in four bytes: one that has no two bytes, or one beyond the first plane. -/
def fullFour (a b c d : Nat) : Option Nat :=
  if 0x81 ≤ a && a ≤ 0xFE && 0x81 ≤ c && c ≤ 0xFE && 0x30 ≤ d && d ≤ 0x39 then
    let place := fun row => ((row * 10 + (b - 0x30)) * 126 + (c - 0x81)) * 10 + (d - 0x30)
    if a < 0x85 then remaining[place (a - 0x81)]?
    else if 0x90 ≤ a then
      let n := 0x10000 + place (a - 0x90)
      if n < 0x110000 then some n else none
    else none
  else none

/-- The charset of all characters. -/
def fullStep (a : UInt8) (rest : Bytes) : Step :=
  match rest with
  | b :: after =>
    if 0x80 ≤ a && 0x30 ≤ b && b ≤ 0x39 then
      match after with
      | c :: d :: _ => .ofNat? 4 (fullFour a.toNat b.toNat c.toNat d.toNat)
      | _ => .short
    else pairStep fullPair a rest
  | [] => pairStep fullPair a rest

/-! ## Traditional hanzi -/

/-- The cell of a second byte in a grid with two rows for each first byte, of which this is number
`lead`. -/
def twoRows (g : Grid) (lead b : Nat) : Option Nat :=
  if 0x40 ≤ b && b < 0x7F then g.cell? (2 * lead) (b - 0x40)
  else if 0xA1 ≤ b then g.cell? (2 * lead + 1) (b - 0xA1)
  else none

/-- Two bytes as a cell of the grid. -/
def traditionalPair (a b : Nat) : Option Nat :=
  if a < 0xA1 then none else twoRows traditional (a - 0xA1) b

/-- Signs that a wider charset changes or adds. -/
def traditionalSigns : List Strip :=
  [⟨0xA145, "‧"⟩, ⟨0xA14E, "﹑"⟩, ⟨0xA1C2, "¯"⟩, ⟨0xA1E3, "～"⟩, ⟨0xA1F2, "⊕⊙"⟩, ⟨0xA241, "∕﹨ ￥ ￠￡"⟩,
    ⟨0xA3E1, "€"⟩, ⟨0xF9D6, "碁銹裏墻恒粧嫺╔╦╗╠╬╣╚╩╝╒╤╕╞╪╡╘╧╛╓╥╖╟╫╢╙╨╜║═╭╮╰╯▓"⟩]

/-- The wider charset. -/
def wideTraditional (a b : Nat) : Option Nat :=
  firstOf [Strip.cell? traditionalSigns (a * 256 + b), traditionalPair a b]

/-- The characters of two bytes in Hong Kong, where some rows of the grid are others. -/
def hongKongCell (a b : Nat) : List Nat :=
  let code := a * 256 + b
  let common := if 0xC6A1 ≤ code && code ≤ 0xC8FF then none else traditionalPair a b
  match firstOf [common, (hongKongLeads.idxOf? a).bind (twoRows hongKong · b)] with
  | some n => [n]
  | none => (hongKongMarked.lookup code).getD []

/-- The charset of Hong Kong. -/
def hongKongStep (a : UInt8) (rest : Bytes) : Step :=
  if a < 0x80 then .character a.toNat 1
  else match rest with
    | [] => .short
    | b :: _ => .ofCell 2 (hongKongCell a.toNat b.toNat)

/-! ## Seven bits -/

/-- Hanzi in seven bits: between `~` with an opening brace and `~` with a closing one, two bytes are
a cell of the grid. The state tells whether that is so. A tilde is written twice, and one before the
end of a line joins it to the next. -/
def tildeStep (inGrid : Bool) (a : UInt8) (rest : Bytes) : Step × Bool :=
  match a, rest with
  | 0x7E, [] => (.short, inGrid)
  | 0x7E, b :: _ =>
    match inGrid, b with
    | false, 0x7E => (.character 0x7E 2, false)
    | false, 0x7B => (.quiet 2, true)
    | false, 0x0A => (.quiet 2, false)
    | true, 0x7D => (.quiet 2, false)
    | _, _ => (.bad 1, inGrid)
  | _, _ =>
    if 0x80 ≤ a then (.bad 1, inGrid)
    else if !inGrid then (.character a.toNat 1, inGrid)
    else match rest with
      | [] => (.short, inGrid)
      | b :: _ => (.ofNat? 2 (low hanzi a.toNat b.toNat), inGrid)

end Charset

end DartComments
