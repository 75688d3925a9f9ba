import DartComments.Text.Utf8

/-!
# Syntax trees

A node has a kind, the bytes it covers, and children in order, the tokens among them. The kinds
that declarations are recognised by have names of their own; every other kind is told by its label
only. Parsers mark what they could not read: nodes of kind `error`, and nodes that are missing from
the source. Offsets are taken as they are told, and need not lie in the source.
-/

namespace DartComments

inductive NodeKind where
  | functionSignature
  | getterSignature
  | setterSignature
  | operatorSignature
  | methodSignature
  | declaration
  | metadata
  | markerMetadata
  | comment
  | documentation
  | external
  | static
  | abstract
  | augment
  | functionBody
  | semicolon
  | block
  | get
  | set
  | operator
  | parameters
  | typeParameters
  | identifier
  | error
  | other (label : Text)
deriving DecidableEq

namespace NodeKind

/-- The label that parsers give to a kind. -/
def label : NodeKind → Text
  | .functionSignature => "function_signature"
  | .getterSignature => "getter_signature"
  | .setterSignature => "setter_signature"
  | .operatorSignature => "operator_signature"
  | .methodSignature => "method_signature"
  | .declaration => "declaration"
  | .metadata => "annotation"
  | .markerMetadata => "marker_annotation"
  | .comment => "comment"
  | .documentation => "documentation_comment"
  | .external => "external"
  | .static => "static"
  | .abstract => "abstract"
  | .augment => "augment"
  | .functionBody => "function_body"
  | .semicolon => ";"
  | .block => "block"
  | .get => "get"
  | .set => "set"
  | .operator => "operator"
  | .parameters => "formal_parameter_list"
  | .typeParameters => "type_parameters"
  | .identifier => "identifier"
  | .error => "ERROR"
  | .other label => label

/-- The kinds with names of their own. -/
def known : List NodeKind :=
  [.functionSignature, .getterSignature, .setterSignature, .operatorSignature, .methodSignature,
    .declaration, .metadata, .markerMetadata, .comment, .documentation, .external, .static,
    .abstract, .augment, .functionBody, .semicolon, .block, .get, .set, .operator, .parameters,
    .typeParameters, .identifier, .error]

def ofLabel (t : Text) : NodeKind := (known.find? (·.label = t)).getD (.other t)

/-- A signature that stands alone. -/
def isFunctionSignature : NodeKind → Bool
  | .functionSignature | .getterSignature | .setterSignature => true
  | _ => false

/-- A signature that a member can have. -/
def isMemberSignature : NodeKind → Bool
  | .operatorSignature => true
  | k => k.isFunctionSignature

/-- A node that wraps the signature of a member. -/
def isMemberWrapper : NodeKind → Bool
  | .methodSignature | .declaration => true
  | _ => false

def isMetadata : NodeKind → Bool
  | .metadata | .markerMetadata => true
  | _ => false

def isComment : NodeKind → Bool
  | .comment | .documentation => true
  | _ => false

def isModifier : NodeKind → Bool
  | .external | .static | .abstract | .augment => true
  | _ => false

/-- Comments, metadata and modifiers: what may stand before a return type. -/
def isAttachment (k : NodeKind) : Bool := k.isComment || k.isMetadata || k.isModifier

/-- A keyword that the name follows. -/
def isNameKeyword : NodeKind → Bool
  | .get | .set | .operator => true
  | _ => false

/-- What comes after the name in a signature. -/
def isAfterName : NodeKind → Bool
  | .parameters | .typeParameters => true
  | _ => false

end NodeKind

/-- What a node tells about itself. -/
structure NodeInfo where
  kind : NodeKind
  /-- The first byte. -/
  start : Int
  /-- One past the last byte. -/
  stop : Int
  /-- A token or a symbol when it is not. -/
  named : Bool := true
  missing : Bool := false
  /-- Is it the name of its parent? -/
  holdsName : Bool := false
  /-- The parser's own word on whether there is a fault in the node. -/
  faulty : Option Bool := none

/-- Is the node itself a fault: of kind `error`, or missing? -/
def NodeInfo.isFault (i : NodeInfo) : Bool := i.kind = .error || i.missing

inductive Node where
  | mk (info : NodeInfo) (children : List Node)

namespace Node

instance : Inhabited Node := ⟨.mk { kind := .error, start := 0, stop := 0 } []⟩

def info : Node → NodeInfo
  | .mk i _ => i

def children : Node → List Node
  | .mk _ cs => cs

def kind (n : Node) : NodeKind := n.info.kind

def start (n : Node) : Int := n.info.start

def stop (n : Node) : Int := n.info.stop

mutual

/-- Is there a fault in the node, or does the parser say so? -/
def hasFault : Node → Bool
  | .mk info children =>
    match info.faulty with
    | some b => b
    | none => info.isFault || anyFault children

def anyFault : List Node → Bool
  | [] => false
  | n :: ns => n.hasFault || anyFault ns

end

mutual

/-- The first fault in the order of the source, looked for where the nodes say there is one. -/
def firstFault? : Node → Option NodeInfo
  | .mk info children =>
    if info.isFault then some info else firstFaultIn? children

def firstFaultIn? : List Node → Option NodeInfo
  | [] => none
  | n :: ns =>
    if n.hasFault || n.info.missing then
      match n.firstFault? with
      | some f => some f
      | none => firstFaultIn? ns
    else firstFaultIn? ns

end

/-- A node over the span from one node to another. -/
def spanning (first last : Node) (kind : NodeKind) (children : List Node) : Node :=
  .mk { kind, start := first.start, stop := last.stop } children

/-- The number of bytes before an offset; a negative one counts from the end of the source. -/
def position (bytes : Bytes) (offset : Int) : Nat :=
  (if offset < 0 then offset + bytes.length else offset).toNat

/-- The source text of a node, read on its own. -/
def text (n : Node) (bytes : Bytes) : Text :=
  Utf8.decodeEscaped ((bytes.take (position bytes n.stop)).drop (position bytes n.start))

end Node

/-- The line that byte `offset` is on, from 1. -/
def lineAt (bytes : Bytes) (offset : Int) : Nat :=
  (bytes.take (Node.position bytes offset)).count 0x0A + 1

end DartComments
