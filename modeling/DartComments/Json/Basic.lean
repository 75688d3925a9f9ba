import DartComments.Number.Shortest
import DartComments.Text.Quoted

/-!
# JSON values

Values with whole numbers apart from floating-point ones and with the fields of an object in
order. Setting a field that is there already keeps its place.
-/

namespace DartComments

inductive Json where
  | null
  | bool (b : Bool)
  | int (i : Int)
  | float (d : Double)
  | str (t : Text)
  | arr (items : List Json)
  | obj (fields : List (Text × Json))

instance : Inhabited Json := ⟨.null⟩

namespace Json

/-- Sets a field, in its place if the key is there and at the end otherwise. -/
def setField (key : Text) (v : Json) : List (Text × Json) → List (Text × Json)
  | [] => [(key, v)]
  | (k, w) :: rest => if k = key then (key, v) :: rest else (k, w) :: setField key v rest

/-- The value of a field. -/
def lookup (key : Text) : List (Text × Json) → Option Json
  | [] => none
  | (k, w) :: rest => if k = key then some w else lookup key rest

/-- Does the value count as true? Zero, the empty and the absent do not. -/
def isTruthy : Json → Bool
  | .null => false
  | .bool b => b
  | .int i => i != 0
  | .float d => d.isNonzero
  | .str t => ! t.isEmpty
  | .arr items => ! items.isEmpty
  | .obj fields => ! fields.isEmpty

/-- The word for the kind of a value in diagnostics. -/
def kindName : Json → Text
  | .null => "NoneType"
  | .bool _ => "bool"
  | .int _ => "int"
  | .float _ => "float"
  | .str _ => "str"
  | .arr _ => "list"
  | .obj _ => "dict"

/-! ## Values in running text -/

mutual

/-- A value as it stands inside a list or an object: texts are quoted. -/
def inspect : Json → Text
  | .null => "None"
  | .bool b => if b then "True" else "False"
  | .int i => Text.ofInt i
  | .float d => d.text
  | .str t => t.quoted
  | .arr items => "[" ++ Text.join (Text.ofString ", ") (inspectItems items) ++ "]"
  | .obj fields => "\x7b" ++ Text.join (Text.ofString ", ") (inspectFields fields) ++ "\x7d"

def inspectItems : List Json → List Text
  | [] => []
  | v :: vs => inspect v :: inspectItems vs

def inspectFields : List (Text × Json) → List Text
  | [] => []
  | (k, v) :: fs => (k.quoted ++ ": " ++ inspect v) :: inspectFields fs

end

/-- A value in running text: a text is itself. -/
def display : Json → Text
  | .str t => t
  | v => inspect v

end Json

end DartComments
