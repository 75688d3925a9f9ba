import DartComments.Charset.Backslash
import DartComments.Charset.Chinese
import DartComments.Charset.Escaped
import DartComments.Charset.Korean
import DartComments.Charset.Name
import DartComments.Charset.Shifted
import DartComments.Charset.Single
import DartComments.Text.Punycode

/-!
# Charsets

What the bytes of a reply mean. Bytes without a meaning become replacement characters. Only a few
names that are known but are no charsets of texts lead to a failure, and so do

* a charset of wide units when the mark that tells their byte order is missing,
* an escape that is too long to end, and one that chooses single characters that are none,
* punycode whose numbers are not ASCII,
* a name with a zero in it.

`decode` reads the body of a reply, `decodeStrict` bytes that must all have a meaning.
-/

namespace DartComments

inductive Charset where
  | ascii
  /-- Each byte is the character of that number. -/
  | numbers
  /-- Each byte is a character of a table. -/
  | single (table : List Char)
  /-- Each byte or few bytes are a character. -/
  | stepped (step : UInt8 → Bytes → Charset.Step)
  /-- Hanzi between tildes. -/
  | tildes
  /-- What bytes are is chosen by escapes. -/
  | escaped (e : Charset.Escapes)
  | utf7
  | utf8
  /-- UTF-8 after a mark that is dropped. -/
  | utf8Marked
  /-- UTF-16, in a known byte order or after a mark that tells it. -/
  | utf16 (order : Option ByteOrder)
  | utf32 (order : Option ByteOrder)
  | punycode
  /-- Something else than the characters of a text. -/
  | compression
  | rotation
  | hostName
  | undefined

namespace Charset

/-- The charset that has this as its own name. -/
def ofOwnName : String → Charset
  | "ascii" => .ascii
  | "latin_1" => .numbers
  | "charmap" => .numbers
  | "unicode_escape" => .stepped backslashStep
  | "raw_unicode_escape" => .stepped rawBackslashStep
  | "punycode" => .punycode
  | "utf_7" => .utf7
  | "utf_8_sig" => .utf8Marked
  | "utf_16" => .utf16 none
  | "utf_16_le" => .utf16 (some .little)
  | "utf_16_be" => .utf16 (some .big)
  | "utf_32" => .utf32 none
  | "utf_32_le" => .utf32 (some .little)
  | "utf_32_be" => .utf32 (some .big)
  | "base64_codec" => .compression
  | "bz2_codec" => .compression
  | "hex_codec" => .compression
  | "quopri_codec" => .compression
  | "uu_codec" => .compression
  | "zlib_codec" => .compression
  | "rot_13" => .rotation
  | "idna" => .hostName
  | "undefined" => .undefined
  | "gb2312" => .stepped (pairStep (high hanzi))
  | "gbk" => .stepped (pairStep wideHanzi)
  | "gb18030" => .stepped fullStep
  | "hz" => .tildes
  | "big5" => .stepped (pairStep traditionalPair)
  | "cp950" => .stepped (pairStep wideTraditional)
  | "big5hkscs" => .stepped hongKongStep
  | "euc_jp" => .stepped highKanjiStep
  | "euc_jisx0213" => .stepped (highPlanesStep false)
  | "euc_jis_2004" => .stepped (highPlanesStep true)
  | "shift_jis" => .stepped shiftedStep
  | "shift_jisx0213" => .stepped (shiftedPlanesStep false)
  | "shift_jis_2004" => .stepped (shiftedPlanesStep true)
  | "cp932" => .stepped wideShiftedStep
  | "iso2022_jp" => .escaped kanjiEscapes
  | "iso2022_jp_1" => .escaped rareKanjiEscapes
  | "iso2022_jp_2" => .escaped foreignEscapes
  | "iso2022_jp_3" => .escaped (planesEscapes false)
  | "iso2022_jp_2004" => .escaped (planesEscapes true)
  | "iso2022_jp_ext" => .escaped katakanaEscapes
  | "iso2022_kr" => .escaped hangulEscapes
  | "euc_kr" => .stepped hangulStep
  | "cp949" => .stepped (pairStep wideHangul)
  | "johab" => .stepped (pairStep letterPair)
  | name =>
    match singleTables.lookup name with
    | some table => .single table.toList
    | none => .utf8

/-- The charset of a name, if it is known. A name cannot have a zero in it. -/
def ofName (name : Text) : Except CharsetError (Option Charset) :=
  if name.contains (.char '\x00') then .error .zeroInName else .ok ((ofName? name).map ofOwnName)

/-! ## Decoding -/

/-- The character of a byte in a table of 256, or of the upper 128. -/
def tableChar? (table : List Char) (b : UInt8) : Option CodePoint :=
  let i := if table.length = 256 then some b.toNat
    else if b < 128 then none
    else some (b.toNat - 128)
  match i with
  | none => some (CodePoint.ofNat b.toNat)
  | some i => ((table[i]?).filter (· ≠ '\uFFFD')).map .char

/-- UTF-8 without the mark at its start, of which a part is dropped too. -/
def decodeMarked (bytes : Bytes) : Text :=
  match bytes with
  | [] | [0xEF] | [0xEF, 0xBB] => []
  | 0xEF :: 0xBB :: 0xBF :: rest => Utf8.decodeLossy rest
  | _ => Utf8.decodeLossy bytes

/-- The byte order of UTF-16 that a mark at the start tells, and what follows the mark. -/
def mark16? : Bytes → Option (ByteOrder × Bytes)
  | 0xFF :: 0xFE :: rest => some (.little, rest)
  | 0xFE :: 0xFF :: rest => some (.big, rest)
  | _ => none

/-- The byte order of UTF-32 that a mark at the start tells, and what follows the mark. -/
def mark32? : Bytes → Option (ByteOrder × Bytes)
  | 0xFF :: 0xFE :: 0x00 :: 0x00 :: rest => some (.little, rest)
  | 0x00 :: 0x00 :: 0xFE :: 0xFF :: rest => some (.big, rest)
  | _ => none

/-- Wide units after the mark that tells their byte order, which may be missing only where the bytes
are too few for it. -/
def decodeUnits (decode : ByteOrder → Bytes → Decoded) (size : Nat) (missing : CharsetError)
    (mark : Option (ByteOrder × Bytes)) (bytes : Bytes) : Except CharsetError Text :=
  match mark with
  | some (order, rest) => .ok (decode order rest).lossy
  | none => if size ≤ bytes.length then .error missing else .ok (decode .little bytes).lossy

/-- Each byte as the code point of that number. -/
def byNumber (bytes : Bytes) : Text := bytes.map fun b => CodePoint.ofNat b.toNat

/-- Each byte as a character of ASCII. -/
def byAscii (bytes : Bytes) : Decoded :=
  bytes.map fun b => if b < 128 then some (CodePoint.ofNat b.toNat) else none

/-- Each byte as a character of a table. -/
def byTable (table : List Char) (bytes : Bytes) : Decoded := bytes.map (tableChar? table)

/-- Punycode. What stands before the numbers may be anything, the numbers must be ASCII. -/
def decodePunycode (bytes : Bytes) : Except CharsetError Text :=
  let (plain, digits) := Punycode.parts (byNumber bytes)
  match digits.zipIdx.find? fun (c, _) => !c.isAscii with
  | some (c, place) => .error (.notAscii c.toNat place)
  | none =>
    let text := plain.map fun c => if c.isAscii then c else replacement
    .ok (Punycode.readUpTo { text } 0 0 1 digits)

/-- The text of bytes, with replacement characters for those without a meaning. -/
def decode (charset : Charset) (bytes : Bytes) : Except CharsetError Text :=
  match charset with
  | .ascii => .ok (byAscii bytes).lossy
  | .numbers => .ok (byNumber bytes)
  | .single table => .ok (byTable table bytes).lossy
  | .stepped step => (decodeSteps step bytes).lossy
  | .tildes => (decodeFrom tildeStep false bytes).lossy
  | .escaped e => (decodeFrom (escapedStep e) {} bytes).lossy
  | .utf7 => .ok (Shifted.decode bytes).lossy
  | .utf8 => .ok (Utf8.decodeLossy bytes)
  | .utf8Marked => .ok (decodeMarked bytes)
  | .utf16 none => decodeUnits Wide.decode16 2 .noMark16 (mark16? bytes) bytes
  | .utf16 (some order) => .ok (Wide.decode16 order bytes).lossy
  | .utf32 none => decodeUnits Wide.decode32 4 .noMark32 (mark32? bytes) bytes
  | .utf32 (some order) => .ok (Wide.decode32 order bytes).lossy
  | .punycode => decodePunycode bytes
  | .compression => .error .compression
  | .rotation => .error .rotation
  | .hostName => .error .hostName
  | .undefined => .error .undefined

/-! ## Decoding without gaps -/

/-- The text whose UTF-8 bytes these are. -/
def strictUtf8? (bytes : Bytes) : Option Text :=
  let text := Utf8.decodeLossy bytes
  if text.flatMap Utf8.encodePoint = bytes then some text else none

/-- The text of bytes, if all of them have a meaning. Here wide units need no mark. A host name is
ASCII; its labels in punycode are left as they are. -/
def decodeStrict (charset : Charset) (bytes : Bytes) : Except CharsetError (Option Text) :=
  match charset with
  | .ascii | .hostName => .ok (byAscii bytes).strict?
  | .numbers => .ok (some (byNumber bytes))
  | .single table => .ok (byTable table bytes).strict?
  | .stepped step => (decodeSteps step bytes).strict
  | .tildes => (decodeFrom tildeStep false bytes).strict
  | .escaped e => (decodeFrom (escapedStep e) {} bytes).strict
  | .utf7 => .ok (Shifted.decode bytes).strict?
  | .utf8 => .ok (strictUtf8? bytes)
  | .utf8Marked =>
    match bytes with
    | 0xEF :: 0xBB :: 0xBF :: rest => .ok (strictUtf8? rest)
    | _ => .ok (strictUtf8? bytes)
  | .utf16 order =>
    let (order, rest) := (order.map (·, bytes)).getD ((mark16? bytes).getD (.little, bytes))
    .ok (Wide.decode16 order rest).strict?
  | .utf32 order =>
    let (order, rest) := (order.map (·, bytes)).getD ((mark32? bytes).getD (.little, bytes))
    .ok (Wide.decode32 order rest).strict?
  | .punycode => .ok ((byAscii bytes).strict?.bind Punycode.decode?)
  | .compression | .rotation | .undefined => .ok none

end Charset

end DartComments
