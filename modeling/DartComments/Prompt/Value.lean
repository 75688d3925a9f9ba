import DartComments.Text.Quoted

/-!
# Values in templates

The arguments of a template are texts. From a text a field can go on: to one of its code points, to
its kind, to what it can do, and from there to further values, each of which has a kind, a name or
parts of its own. Only texts have a layout.

    value.attribute? name      what a value has under a name
    value.shown                the value as a text
-/

namespace DartComments

namespace Template

/-- What a value is. -/
inductive Kind where
  | text
  | nothing
  | sequence
  | object
  | kind
  | method
  | slot
  | methodOfKind
  | slotOfKind
  | parameterised
deriving DecidableEq

namespace Kind

def name : Kind → Text
  | .text => "str"
  | .nothing => "NoneType"
  | .sequence => "tuple"
  | .object => "object"
  | .kind => "type"
  | .method => "builtin_function_or_method"
  | .slot => "method-wrapper"
  | .methodOfKind => "method_descriptor"
  | .slotOfKind => "wrapper_descriptor"
  | .parameterised => "GenericAlias"

/-- The module that a kind comes from. -/
def origin : Kind → Text
  | .parameterised => "types"
  | _ => "builtins"

def shown (k : Kind) : Text :=
  let full := match k with
    | .parameterised => k.origin ++ [.char '.'] ++ k.name
    | _ => k.name
  "<class '" ++ full ++ "'>"

/-- A kind and the kinds it is a special case of. -/
def line : Kind → List Kind
  | .object => [.object]
  | k => [k, .object]

/-- Names that every value has for something built in. -/
def commonSlots : List String :=
  ["__delattr__", "__eq__", "__ge__", "__getattribute__", "__gt__", "__hash__", "__init__",
    "__le__", "__lt__", "__ne__", "__repr__", "__setattr__", "__str__"]

/-- The built-in names of a kind itself. -/
def slots : Kind → List String
  | .object => commonSlots
  | .text =>
    ["__add__", "__contains__", "__eq__", "__ge__", "__getattribute__", "__getitem__", "__gt__",
      "__hash__", "__iter__", "__le__", "__len__", "__lt__", "__mod__", "__mul__", "__ne__",
      "__repr__", "__rmod__", "__rmul__", "__str__"]
  | .sequence =>
    ["__add__", "__contains__", "__eq__", "__ge__", "__getattribute__", "__getitem__", "__gt__",
      "__hash__", "__iter__", "__le__", "__len__", "__lt__", "__mul__", "__ne__", "__repr__",
      "__rmul__"]
  | .kind =>
    ["__call__", "__delattr__", "__getattribute__", "__init__", "__or__", "__repr__", "__ror__",
      "__setattr__"]
  | .method =>
    ["__call__", "__eq__", "__ge__", "__getattribute__", "__gt__", "__hash__", "__le__", "__lt__",
      "__ne__", "__repr__"]
  | .slot =>
    ["__call__", "__eq__", "__ge__", "__getattribute__", "__gt__", "__hash__", "__le__", "__lt__",
      "__ne__", "__repr__"]
  | .methodOfKind => ["__call__", "__get__", "__getattribute__", "__repr__"]
  | .slotOfKind => ["__call__", "__get__", "__getattribute__", "__repr__"]
  | .nothing => ["__bool__", "__repr__"]
  | .parameterised => []

/-- The methods of a kind itself. -/
def methods : Kind → List String
  | .object => ["__dir__", "__format__", "__getstate__", "__reduce__", "__reduce_ex__",
      "__sizeof__"]
  | .text =>
    ["__format__", "__getnewargs__", "__sizeof__", "capitalize", "casefold", "center", "count",
      "encode", "endswith", "expandtabs", "find", "format", "format_map", "index", "isalnum",
      "isalpha", "isascii", "isdecimal", "isdigit", "isidentifier", "islower", "isnumeric",
      "isprintable", "isspace", "istitle", "isupper", "join", "ljust", "lower", "lstrip",
      "partition", "removeprefix", "removesuffix", "replace", "rfind", "rindex", "rjust",
      "rpartition", "rsplit", "rstrip", "split", "splitlines", "startswith", "strip", "swapcase",
      "title", "translate", "upper", "zfill"]
  | .sequence => ["__getnewargs__", "count", "index"]
  | .kind => ["__dir__", "__instancecheck__", "__sizeof__", "__subclasscheck__", "__subclasses__",
      "mro"]
  | _ => []

/-- The methods that belong to a kind and not to its values. -/
def kindMethods : Kind → List String
  | .object => ["__init_subclass__", "__new__", "__subclasshook__"]
  | .text => ["__new__", "maketrans"]
  | .sequence => ["__class_getitem__", "__new__"]
  | .kind => ["__new__", "__prepare__"]
  | _ => ["__new__"]

/-- What a kind is for. -/
def purpose? : Kind → Option Text
  | .text => some (
      "str(object='') -> str\nstr(bytes_or_buffer[, encoding[, errors]]) -> str\n\n" ++
      "Create a new string object from the given object. If encoding or\n" ++
      "errors is specified, then the object must expose a data buffer\n" ++
      "that will be decoded using the given encoding and error handler.\n" ++
      "Otherwise, returns the result of object.__str__() (if defined)\nor repr(object).\n" ++
      "encoding defaults to sys.getdefaultencoding().\nerrors defaults to 'strict'.")
  | .object => some (
      "The base class of the class hierarchy.\n\n" ++
      "When called, it accepts no arguments and returns a new featureless\n" ++
      "instance that has no instance attributes and cannot be given any.\n")
  | .kind => some (
      "type(object) -> the object's type\ntype(name, bases, dict, **kwds) -> a new type")
  | .sequence => some (
      "Built-in immutable sequence.\n\n" ++
      "If no argument is given, the constructor returns an empty tuple.\n" ++
      "If iterable is specified the tuple is initialized from iterable's items.\n\n" ++
      "If the argument is a tuple, the return value is the same object.")
  | _ => none

/-- The first kind in the line of `k` whose list has a name. -/
def owner? (lists : Kind → List String) (k : Kind) (name : Text) : Option Kind :=
  k.line.find? fun l => (lists l).any fun own => Text.ofString own = name

end Kind

/-- A value that a field can reach. -/
inductive Value where
  | text (t : Text)
  | nothing
  | sequence (items : List Value)
  | kind (k : Kind)
  /-- A method of a value, and the value. -/
  | method (name : Text) (self : Value)
  /-- Something built in of a value, the kind that has it, and the value. -/
  | slot (name : Text) (owner : Kind) (self : Value)
  /-- The method or slot of a kind. -/
  | methodOfKind (name : Text) (owner : Kind)
  | slotOfKind (name : Text) (owner : Kind)
  /-- A kind with a parameter. -/
  | parameterised (k : Kind) (parameter : Text)

namespace Value

/-- The kind of a value. -/
def kindOf : Value → Kind
  | .text _ => .text
  | .nothing => .nothing
  | .sequence _ => .sequence
  | .kind _ => .kind
  | .method .. => .method
  | .slot .. => .slot
  | .methodOfKind .. => .methodOfKind
  | .slotOfKind .. => .slotOfKind
  | .parameterised .. => .parameterised

/-- How a value is named where it does something. -/
def selfName : Value → Text
  | .kind k => k.name
  | v => v.kindOf.name

mutual

/-- The value as it is shown among others; texts are quoted. -/
def inspect (shown : CodePoint → Bool) : Value → Text
  | .text t => t.quoteWith shown
  | .nothing => "None"
  | .sequence items =>
    match items with
    | [v] => "(" ++ inspect shown v ++ ",)"
    | vs => "(" ++ Text.join ", " (inspectAll shown vs) ++ ")"
  | .kind k => k.shown
  | .method name self =>
    "<built-in method " ++ name ++ " of " ++ self.kindOf.name ++ " object>"
  | .slot name _ self =>
    "<method-wrapper '" ++ name ++ "' of " ++ self.kindOf.name ++ " object>"
  | .methodOfKind name owner => "<method '" ++ name ++ "' of '" ++ owner.name ++ "' objects>"
  | .slotOfKind name owner => "<slot wrapper '" ++ name ++ "' of '" ++ owner.name ++ "' objects>"
  | .parameterised k parameter => k.name ++ "[" ++ parameter ++ "]"

def inspectAll (shown : CodePoint → Bool) : List Value → List Text
  | [] => []
  | v :: vs => inspect shown v :: inspectAll shown vs

end

/-- The value as a text; a text is itself. -/
def shown : Value → Text
  | .text t => t
  | v => v.inspect CodePoint.isPrintable

/-- The value quoted. -/
def quoted (v : Value) : Text := v.inspect CodePoint.isPrintable

/-- The value quoted in ASCII. -/
def quotedAscii (v : Value) : Text := v.inspect fun c => c.isAscii && c.isPrintable

/-! ## Attributes -/

/-- What a value does under a name, because of its kind. -/
def member? (v : Value) (name : Text) : Option Value :=
  let k := v.kindOf
  match k.owner? Kind.slots name, k.owner? Kind.methods name, k.owner? Kind.kindMethods name with
  | some owner, _, _ => some (.slot name owner v)
  | none, some _, _ => some (.method name v)
  | none, none, some owner => some (.method name (.kind owner))
  | none, none, none => none

/-- What a kind has under a name, for its values and for itself. -/
def memberOfKind? (k : Kind) (name : Text) : Option Value :=
  match k.owner? Kind.slots name, k.owner? Kind.methods name, k.owner? Kind.kindMethods name with
  | some owner, _, _ => some (.slotOfKind name owner)
  | none, some owner, _ => some (.methodOfKind name owner)
  | none, none, some _ => some (.method name (.kind k))
  | none, none, none => member? (.kind k) name

/-- The purpose of a kind, or nothing. -/
def purpose (k : Kind) : Value := (k.purpose?.map Value.text).getD .nothing

/-- The attributes of a kind. -/
def ofKind? (k : Kind) (name : Text) : Option Value :=
  if name = "__name__" || name = "__qualname__" then some (.text k.name)
  else if name = "__module__" then some (.text k.origin)
  else if name = "__mro__" then some (.sequence (k.line.map .kind))
  else if name = "__bases__" then some (.sequence ((k.line.drop 1).map .kind))
  else if name = "__base__" then some (((k.line.drop 1).head?.map Value.kind).getD .nothing)
  else if name = "__doc__" then some (purpose k)
  else memberOfKind? k name

/-- A name with the kind it belongs to. -/
def qualified (owner name : Text) : Value := .text (owner ++ [.char '.'] ++ name)

/-- What a value has of its own under a name. -/
def own? (v : Value) (name : Text) : Option Value :=
  match v with
  | .text _ | .sequence _ => if name = "__doc__" then some (purpose v.kindOf) else none
  | .method verb self =>
    if name = "__name__" then some (.text verb)
    else if name = "__qualname__" then some (qualified self.selfName verb)
    else if name = "__self__" then some self
    else if name = "__module__" then some .nothing
    else none
  | .slot verb owner self =>
    if name = "__name__" then some (.text verb)
    else if name = "__qualname__" then some (qualified owner.name verb)
    else if name = "__self__" then some self
    else if name = "__objclass__" then some (.kind owner)
    else none
  | .methodOfKind verb owner | .slotOfKind verb owner =>
    if name = "__name__" then some (.text verb)
    else if name = "__qualname__" then some (qualified owner.name verb)
    else if name = "__objclass__" then some (.kind owner)
    else none
  | _ => none

/-- What a value has under a name. -/
def attribute? (v : Value) (name : Text) : Option Value :=
  if name = "__class__" then some (.kind v.kindOf)
  else match v with
    | .kind k => ofKind? k name
    | _ => (v.own? name).orElse fun _ => v.member? name

/-- How a value without an attribute or without parts is named. -/
def title : Value → Text
  | .kind k => "type object '" ++ k.name ++ "'"
  | v => "'" ++ v.kindOf.name ++ "' object"

end Value

end Template

end DartComments
