import DartComments.Source.Declaration
import DartComments.Source.Offsets
import DartComments.Source.Unit

/-!
# Finding the declarations of a tree

The tree is walked from top to bottom. A node heads a declaration when it is a signature, or the
wrapper of a member's signature, and the next sibling that is no comment is a body or a semicolon.
The walk goes on after that terminator, so the body of a declaration is not searched; every other
node is searched in turn.

A declaration starts at its first leading metadata, or at its return type when it has none, and ends
with its terminator. A tree with faults has no declarations at all.
-/

namespace DartComments

inductive LocateError where
  | misparsed (path : Option Text) (missing : Option NodeKind) (line : Nat)
  | unnamed (kind : DeclarationKind) (line : Nat)
  | untyped (kind : DeclarationKind) (name : Text) (line : Nat)
  | offset (e : OffsetError)
  | range (e : RangeError)
deriving DecidableEq

def LocateError.message : LocateError → Text
  | .misparsed path missing line =>
    let what : Text := match missing with
      | some kind => "missing '" ++ kind.label ++ "'"
      | none => "unsupported or invalid syntax"
    "Cannot parse " ++ path.getD "source" ++ ": " ++ what ++ " at line " ++ Text.ofNat line
  | .unnamed kind line => "Unnamed " ++ kind.text ++ " declaration at line " ++ Text.ofNat line
  | .untyped kind name line =>
    "The " ++ kind.text ++ " '" ++ name ++ "' at line " ++ Text.ofNat line ++
      " has no return type; add one so its comment can be placed"
  | .offset e => e.message
  | .range e => e.message

namespace Locate

/-! ## Parts of a declaration -/

/-- The kind of declaration that a node would head, and its signature. -/
def signature? (n : Node) : Option (DeclarationKind × Node) :=
  if n.kind.isFunctionSignature then some (.function, n)
  else if n.kind.isMemberWrapper then
    (n.children.find? (·.kind.isMemberSignature)).map fun s => (.method, s)
  else none

/-- Does a body end with its own semicolon or block? -/
def closesItself (body : Node) : Bool :=
  match body.children.getLast? with
  | some last => last.kind = .semicolon || last.kind = .block
  | none => false

/-- The end of a body whose following siblings are `rest`: the body, or the semicolon after it when
the body does not end with one. The number counts the siblings taken. -/
def bodyEnd (body : Node) (rest : List Node) : Nat × Node :=
  match closesItself body, rest with
  | false, next :: _ => if next.kind = .semicolon then (2, next) else (1, body)
  | _, _ => (1, body)

/-- The terminator of a declaration among the siblings after its head, and how many of them it
takes. -/
def terminator? : List Node → Option (Nat × Node)
  | [] => none
  | n :: rest =>
    if n.kind.isComment then (terminator? rest).map fun r => (r.1 + 1, r.2)
    else if n.kind = .semicolon then some (1, n)
    else if n.kind = .functionBody then some (bodyEnd n rest)
    else none

/-- The node after the first `get`, `set` or `operator`. -/
def afterKeyword? : List Node → Option Node
  | a :: b :: rest => if a.kind.isNameKeyword then some b else afterKeyword? (b :: rest)
  | _ => none

/-- The last identifier before the parameters. -/
def lastIdentifier? (children : List Node) : Option Node :=
  ((children.takeWhile (! ·.kind.isAfterName)).filter (·.kind = .identifier)).getLast?

/-- The node that holds the name of a signature. -/
def nameNode? (s : Node) : Option Node :=
  (s.children.find? (·.info.holdsName)).or
    ((afterKeyword? s.children).or (lastIdentifier? s.children))

/-- The first node of the return type: a named one before the name that is no attachment. -/
def returnType? (s name : Node) : Option Node :=
  (s.children.takeWhile fun c => c.start < name.start && c.kind ≠ .operator).find? fun c =>
    c.info.named && ! c.kind.isAttachment

/-- The first of the metadata that lead up to a node: before it among its siblings, which are given
in reverse, or else first among its children. -/
def leadingMetadata? (before : List Node) (n : Node) : Option Node :=
  (((before.takeWhile (·.kind.isAttachment)).filter (·.kind.isMetadata)).getLast?).or
    ((n.children.takeWhile fun c => c.kind.isMetadata || c.kind.isComment).find?
      (·.kind.isMetadata))

/-- The offset of a byte as a code point offset. -/
def offsetOf (offsets : Offsets) (byte : Int) : Except LocateError Int :=
  (offsets.convert byte).mapError .offset

/-- The declaration headed by `n`, with signature `s` and terminator `t`. -/
def declare (bytes : Bytes) (offsets : Offsets) (before : List Node) (n : Node)
    (kind : DeclarationKind) (s t : Node) : Except LocateError Declaration := do
  let line := lineAt bytes s.start
  match nameNode? s with
  | none => .error (.unnamed kind line)
  | some nameNode =>
    let name := nameNode.text bytes
    match returnType? s nameNode with
    | none => .error (.untyped kind name line)
    | some type =>
      let start ← offsetOf offsets ((leadingMetadata? before n).getD type).start
      let stop ← offsetOf offsets t.stop
      let range ← (SourceRange.ofInts start stop).mapError .range
      pure ⟨name, kind, range⟩

/-! ## The walk -/

mutual

/-- The declarations below a node. -/
def below (bytes : Bytes) (offsets : Offsets) : Node → Except LocateError (List Declaration)
  | .mk _ children => among bytes offsets 0 [] children

/-- The declarations at and below siblings, after the first `skip` of them. The siblings before
them are given in reverse. -/
def among (bytes : Bytes) (offsets : Offsets) :
    Nat → List Node → List Node → Except LocateError (List Declaration)
  | _, _, [] => .ok []
  | skip + 1, before, n :: rest => among bytes offsets skip (n :: before) rest
  | 0, before, n :: rest =>
    match signature? n, terminator? rest with
    | some (kind, s), some (taken, t) => do
      let d ← declare bytes offsets before n kind s t
      let ds ← among bytes offsets taken (n :: before) rest
      pure (d :: ds)
    | _, _ => do
      let inner ← below bytes offsets n
      let ds ← among bytes offsets 0 (n :: before) rest
      pure (inner ++ ds)

end

/-- The first fault of a tree as an error. -/
def fault (u : SourceUnit) : LocateError :=
  match u.tree.firstFault? with
  | some f =>
    .misparsed u.path (if f.missing then some f.kind else none) (lineAt u.bytes f.start)
  | none => .misparsed u.path none 1

end Locate

/-- The declarations of a source unit, in the order of the walk. -/
def SourceUnit.declarations (u : SourceUnit) : Except LocateError (List Declaration) :=
  if u.tree.hasFault then .error (Locate.fault u)
  else Locate.below u.bytes (.ofBytes u.bytes) u.tree

end DartComments
