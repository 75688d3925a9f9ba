import DartComments.Text.Digit
import DartComments.Text.Utf8

/-!
# Percent escapes

A component of a URL is written in printable ASCII. What does not print, and some marks that would
end the component, are written byte by byte as a percent sign and two hexadecimal digits. A percent
sign is never escaped, so that a text which has been escaped already stays as it is.
-/

namespace DartComments

namespace Percent

/-- The component of a URL in which a text stands. -/
inductive Component where
  | userinfo
  | host
  | path
  | query
  | fragment
deriving DecidableEq

/-- The printable marks that are escaped in a component. -/
def Component.escaped : Component → List Char
  | .query => " \"#<>".toList
  | .fragment => " \"<>`".toList
  | .path => " \"#<>?`\x7b\x7d".toList
  | .userinfo => " \"#<>?`\x7b\x7d/;=@[\\]^|".toList
  | .host => " #/:<>?@[]^".toList

/-- Does a code point stand for itself in a component? -/
def isPlain (component : Component) (c : CodePoint) : Bool :=
  0x20 ≤ c.toNat && c.toNat < 0x7F &&
    !component.escaped.contains (Char.ofNat c.toNat)

/-- Two upper-case hexadecimal digits after a percent sign. -/
def escapeByte (b : UInt8) : Text :=
  .char '%' :: (Text.hex 2 b.toNat).map fun
    | .char c => .char c.toUpper
    | c => c

/-- How a code point is written in a component. A surrogate has no bytes. -/
def encodePoint (component : Component) (c : CodePoint) : Except Unencodable Text :=
  if isPlain component c then .ok [c]
  else (Utf8.encode [c]).map (·.flatMap escapeByte)

/-- The text as it is written in a component. -/
def encode (component : Component) (t : Text) : Except Unencodable Text := do
  let parts ← t.mapM (encodePoint component)
  pure parts.flatten

/-- The byte of an escape that starts with `c` and goes on in `rest`. -/
def escape? (c : CodePoint) (rest : Text) : Option UInt8 :=
  match c, rest with
  | .char '%', a :: b :: _ => do
    let high ← a.hexDigit?
    let low ← b.hexDigit?
    pure (high * 16 + low).toUInt8
  | _, _ => none

/-- The bytes of a text without escapes, after its first `skip` code points. A percent sign before
anything else than two digits stays. -/
def bytesFrom : Nat → Text → Bytes
  | _, [] => []
  | skip + 1, _ :: rest => bytesFrom skip rest
  | 0, c :: rest =>
    match escape? c rest with
    | some b => b :: bytesFrom 2 rest
    | none => Utf8.encodePoint c ++ bytesFrom 0 rest

/-- The text without escapes. -/
def decode (t : Text) : Text := Utf8.decodeLossy (bytesFrom 0 t)

end Percent

end DartComments
