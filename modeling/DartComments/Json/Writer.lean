import DartComments.Json.Basic
import DartComments.Number.Reading

/-!
# Writing JSON

Compact JSON: no blanks, fields in order, characters outside ASCII as themselves. In a string the
quote mark, the backslash and the control characters are escaped and nothing else. NaN and the
infinities cannot be written, and neither can whole numbers of more than 4300 digits. The first
number that cannot be written is what a document fails for.
-/

namespace DartComments

namespace Json

/-- A code point of a string. -/
def writePoint (c : CodePoint) : Text :=
  if c = .char '\x22' then "\\\""
  else if c = .char '\\' then "\\\\"
  else if c = .char '\n' then "\\n"
  else if c = .char '\r' then "\\r"
  else if c = .char '\t' then "\\t"
  else if c = .char '\x08' then "\\b"
  else if c = .char '\x0c' then "\\f"
  else if c.toNat < 0x20 then "\\u" ++ Text.hex 4 c.toNat
  else [c]

def writeString (t : Text) : Text := "\"" ++ t.flatMap writePoint ++ "\""

/-- Why a document cannot be written. -/
inductive Unwritable where
  | notFinite
  | tooLong
deriving DecidableEq

def Unwritable.message : Unwritable → Text
  | .notFinite => "Out of range float values are not JSON compliant"
  | .tooLong =>
    "Exceeds the limit (" ++ Text.ofNat Number.digitLimit ++
      " digits) for integer string conversion; use sys.set_int_max_str_digits() to increase " ++
      "the limit"

mutual

/-- The text of a value. -/
def write : Json → Except Unwritable Text
  | .null => .ok "null"
  | .bool b => .ok (if b then "true" else "false")
  | .int i =>
    if Number.digitLimit < (Text.ofNat i.natAbs).length then .error .tooLong
    else .ok (Text.ofInt i)
  | .float d => if d.isFinite then .ok d.text else .error .notFinite
  | .str t => .ok (writeString t)
  | .arr items => do
    let ts ← writeItems items
    pure ("[" ++ Text.join (Text.ofString ",") ts ++ "]")
  | .obj fields => do
    let ts ← writeFields fields
    pure ("\x7b" ++ Text.join (Text.ofString ",") ts ++ "\x7d")

def writeItems : List Json → Except Unwritable (List Text)
  | [] => .ok []
  | v :: vs => do
    let t ← write v
    let ts ← writeItems vs
    pure (t :: ts)

def writeFields : List (Text × Json) → Except Unwritable (List Text)
  | [] => .ok []
  | (k, v) :: fs => do
    let t ← write v
    let ts ← writeFields fs
    pure ((writeString k ++ ":" ++ t) :: ts)

end

end Json

end DartComments
