import DartComments.Charset.Kanji
import DartComments.Charset.MoreKanji
import DartComments.Charset.RareKanji
import DartComments.Charset.Step

/-!
# Japanese charsets

The kanji stand in a grid, which one charset reaches with two bytes from `A1` on, and another with
first bytes on both sides of the narrow katakana, which have one byte each. Later charsets fill the
grid and add a second plane to it.
-/

namespace DartComments

namespace Charset

/-- The narrow katakana of a byte. -/
def katakana? (b : Nat) : Option Nat := if 0xA1 ≤ b && b ≤ 0xDF then some (0xFEC0 + b) else none

/-- Kanji in bytes from `A1` on. The narrow katakana come after `8E`, and rare kanji after `8F`. -/
def highKanjiStep (a : UInt8) (rest : Bytes) : Step :=
  if a = 0x8F then
    match rest with
    | b :: c :: _ => .ofNat? 3 (high rareKanji b.toNat c.toNat)
    | _ => .short
  else pairStep (fun a b => if a = 0x8E then katakana? b else high kanji a b) a rest

/-- The place of a second byte from `40` on, among which `7F` is not. -/
def shiftedTrail? (b : Nat) : Option Nat :=
  if 0x40 ≤ b && b < 0x7F then some (b - 0x40)
  else if 0x80 ≤ b && b ≤ 0xFC then some (b - 0x41)
  else none

/-- The row among those that a first byte on either side of the katakana has. -/
def shiftedRow (a : Nat) : Nat := if a < 0xA0 then a - 0x81 else a - 0xC1

/-- The row and the column of two bytes: each first byte has two rows. -/
def shiftedPlace? (a b : Nat) : Option (Nat × Nat) :=
  (shiftedTrail? b).map fun column => (2 * shiftedRow a + column / 94, column % 94)

/-- Two bytes as a cell of the grid. -/
def shiftedKanji (a b : Nat) : Option Nat := do
  let (row, column) ← shiftedPlace? a b
  kanji.cell? row column

/-- Is this the first byte of two? -/
def isShiftedLead (a : Nat) : Bool := (0x81 ≤ a && a ≤ 0x9F) || (0xE0 ≤ a && a ≤ 0xFC)

/-- Kanji around the katakana. -/
def shiftedStep (a : UInt8) (rest : Bytes) : Step :=
  if isShiftedLead a.toNat then pairStep shiftedKanji a rest
  else if a < 0x80 then .character a.toNat 1
  else .ofNat? 1 (katakana? a.toNat)

/-! ## The wider charset -/

/-- Kanji that are added to the grid, with signs before them, from one cell to the next. -/
def addedKanji : String :=
  "ⅰⅱⅲⅳⅴⅵⅶⅷⅸⅹⅠⅡⅢⅣⅤⅥⅦⅧⅨⅩ￢￤＇＂㈱№℡∵" ++
    "纊褜鍈銈蓜俉炻昱棈鋹曻彅丨仡仼伀伃伹佖侒侊侚侔俍偀倢俿倞偆偰偂傔僴僘兊兤冝冾凬刕劜劦勀勛匀匇匤卲厓厲叝﨎咜咊咩哿喆坙坥垬埈埇﨏塚增墲夋奓奛奝奣妤妺孖寀甯寘寬尞岦岺峵崧嵓﨑嵂嵭嶸嶹巐" ++
    "弡弴彧德忞恝悅悊惞惕愠惲愑愷愰憘戓抦揵摠撝擎敎昀昕昻昉昮昞昤晥晗晙晴晳暙暠暲暿曺朎朗杦枻桒柀栁桄棏﨓楨﨔榘槢樰橫橆橳橾櫢櫤毖氿汜沆汯泚洄涇浯涖涬淏淸淲淼渹湜渧渼溿澈澵濵瀅瀇瀨炅炫焏" ++
    "焄煜煆煇凞燁燾犱犾猤猪獷玽珉珖珣珒琇珵琦琪琩琮瑢璉璟甁畯皂皜皞皛皦益睆劯砡硎硤硺礰礼神祥禔福禛竑竧靖竫箞精絈絜綷綠緖繒罇羡羽茁荢荿菇菶葈蒴蕓蕙蕫﨟薰蘒﨡蠇裵訒訷詹誧誾諟諸諶譓譿賰賴" ++
    "贒赶﨣軏﨤逸遧郞都鄕鄧釚釗釞釭釮釤釥鈆鈐鈊鈺鉀鈼鉎鉙鉑鈹鉧銧鉷鉸鋧鋗鋙鋐﨧鋕鋠鋓錥錡鋻﨨錞鋿錝錂鍰鍗鎤鏆鏞鏸鐱鑅鑈閒隆﨩隝隯霳霻靃靍靏靑靕顗顥飯飼餧館馞驎髙髜魵魲鮏鮱鮻鰀鵰鵫鶴鸙黑"

/-- Signs that are changed or added. -/
def shiftedSigns : List Strip :=
  [⟨0x8160, "～∥"⟩, ⟨0x817C, "－"⟩, ⟨0x8191, "￠￡"⟩, ⟨0x81CA, "￢"⟩,
    ⟨0x8740, "①②③④⑤⑥⑦⑧⑨⑩⑪⑫⑬⑭⑮⑯⑰⑱⑲⑳ⅠⅡⅢⅣⅤⅥⅦⅧⅨⅩ ㍉㌔㌢㍍㌘㌧㌃㌶㍑㍗㌍㌦㌣㌫㍊㌻㎜㎝㎞㎎㎏㏄㎡"⟩,
    ⟨0x877E, "㍻ 〝〟№㏍℡㊤㊥㊦㊧㊨㈱㈲㈹㍾㍽㍼≒≡∫∮∑√⊥∠∟⊿∵∩∪"⟩, ⟨0xEEEF, "ⅰⅱⅲⅳⅴⅵⅶⅷⅸⅹ￢￤＇＂"⟩]

/-- The added kanji, which stand at two places, at the second with their signs. -/
def addedKanji? (a b : Nat) : Option Nat := do
  let column ← shiftedTrail? b
  if 0xFA ≤ a then cellOf addedKanji ((a - 0xFA) * 188 + column)
  else if a = 0xED || a = 0xEE then cellOf addedKanji ((a - 0xED) * 188 + column + 28)
  else none

/-- The private characters of cells. -/
def shiftedPrivate? (a b : Nat) : Option Nat :=
  if 0xF0 ≤ a && a ≤ 0xF9 then (shiftedTrail? b).map (0xE000 + (a - 0xF0) * 188 + ·) else none

def wideShifted (a b : Nat) : Option Nat :=
  firstOf [Strip.cell? shiftedSigns (a * 256 + b), addedKanji? a b, shiftedPrivate? a b,
    if a ≤ 0xEA then shiftedKanji a b else none]

/-- The wider charset. Bytes that are no katakana and start no pair are themselves or private. -/
def wideShiftedStep (a : UInt8) (rest : Bytes) : Step :=
  if isShiftedLead a.toNat then pairStep wideShifted a rest
  else if a ≤ 0x80 then .character a.toNat 1
  else if a = 0xA0 then .character 0xF8F0 1
  else if 0xFD ≤ a then .character (0xF8F1 + (a.toNat - 0xFD)) 1
  else .ofNat? 1 (katakana? a.toNat)

/-! ## Two planes -/

/-- The cells that only the later edition of the planes fills. -/
def lateCells : List Nat := [0x2E21, 0x2F7E, 0x4F54, 0x4F7E, 0x7427] ++ interval 0x7E7A 0x7E7E

/-- The characters in a cell of the first plane, by two bytes from `21` on. -/
def firstPlane (late : Bool) (a b : Nat) : List Nat :=
  let code := a * 256 + b
  if !late && lateCells.contains code then []
  else match firstOf [low kanji a b, Strip.cell? moreKanji code] with
    | some n => [n]
    | none => (markedKana.lookup code).getD []

/-- A cell of the first plane that two bytes tell. Both are passed over where only the later edition
has a character. -/
def firstPlaneStep (late : Bool) (a b : Nat) : Step :=
  if !late && lateCells.contains (a * 256 + b) then .bad 2 else .ofCell 2 (firstPlane late a b)

/-- A character of the second plane, of which the later edition changes one. -/
def secondPlane? (late : Bool) (a b : Nat) : Option Nat :=
  let code := a * 256 + b
  if !late && code = 0x7D3B then some 0x9B1D else Strip.cell? secondPlane code

/-- Both planes in bytes from `A1` on. The second stands after `8F`, with the rare kanji in the rows
that it leaves. -/
def highPlanesStep (late : Bool) (a : UInt8) (rest : Bytes) : Step :=
  match a, rest with
  | 0x8F, b :: c :: _ =>
    let late := secondPlane? late (b.toNat - 0x80) (c.toNat - 0x80)
    .ofNat? 3 (firstOf [late, high rareKanji b.toNat c.toNat])
  | 0x8F, _ => .short
  | _, b :: _ =>
    if 0xA1 ≤ a && 0xA1 ≤ b then firstPlaneStep late (a.toNat - 0x80) (b.toNat - 0x80)
    else pairStep (fun a b => if a = 0x8E then katakana? b else none) a rest
  | _, [] => pairStep (fun _ _ => none) a rest

/-- The rows of the second plane, in the order in which they follow the first. -/
def secondPlaneRows : List Nat := [1, 8, 3, 4, 5, 12, 13, 14, 15] ++ interval 78 94

/-- A sign of ASCII that the planes have in their own cells. -/
def ownSign? (code : Nat) : Option Nat :=
  if code = 0x2140 then some 0x5C else if code = 0x2232 then some 0x7E else none

/-- A cell of either plane that two bytes around the katakana tell. -/
def shiftedCellStep (late : Bool) (a b : Nat) : Step :=
  match shiftedPlace? a b with
  | none => .bad 1
  | some (row, column) =>
    if row < 94 then
      match ownSign? ((row + 0x21) * 256 + (column + 0x21)) with
      | some n => .character n 2
      | none => firstPlaneStep late (row + 0x21) (column + 0x21)
    else
      .ofNat? 2 <| (secondPlaneRows[row - 94]?).bind fun row =>
        secondPlane? late (row + 0x20) (column + 0x21)

/-- ASCII with a yen sign and an overline. -/
def roman (b : UInt8) : Nat := if b = 0x5C then 0xA5 else if b = 0x7E then 0x203E else b.toNat

/-- Both planes around the katakana. -/
def shiftedPlanesStep (late : Bool) (a : UInt8) (rest : Bytes) : Step :=
  if isShiftedLead a.toNat then
    match rest with
    | [] => .short
    | b :: _ => shiftedCellStep late a.toNat b.toNat
  else if a < 0x80 then .character (roman a) 1
  else .ofNat? 1 (katakana? a.toNat)

end Charset

end DartComments
