import DartComments.Dart.Forest
import DartComments.Tree.Node

/-!
# Headers

The head of a declaration is what comes before its body: metadata, modifiers, a return type, the
name, and parameters. It is read from both ends. Metadata and modifiers are taken off the front;
parameters, type parameters and the name off the back; what is left is the return type.

    @a static List<int> f<T>(int x) async     metadata, modifier, type, name, parameters, mark

Words are told apart by their places, since most of Dart's keywords may also be names: `get` is a
keyword before a name, and a name before parameters.
-/

namespace DartComments.Dart

/-- A token, or a group with the nodes found in it; `formal` tells whether it could hold the
parameters of a function. -/
inductive Item where
  | token (t : Token)
  | group (b : Bracket) (span : Span) (formal : Bool) (nodes : List Node)

namespace Item

def span : Item → Span
  | .token t => t.span
  | .group _ s .. => s

def nodes : Item → List Node
  | .token _ => []
  | .group _ _ _ ns => ns

def word? : Item → Option String
  | .token ⟨.word w, _⟩ => some w
  | _ => none

def isWord (i : Item) : Bool := i.word?.isSome

def symbol? : Item → Option Char
  | .token ⟨.symbol c, _⟩ => some c
  | _ => none

def isRound : Item → Bool
  | .group .round .. => true
  | _ => false

def isSquare : Item → Bool
  | .group .square .. => true
  | _ => false

def isString : Item → Bool
  | .group .quote .. => true
  | _ => false

/-- A group that can hold parameters. -/
def isFormal : Item → Bool
  | .group .round _ formal _ => formal
  | _ => false

/-- Is it one of these words? -/
def isOneOf (ws : List String) (i : Item) : Bool := i.word?.any ws.contains

end Item

/-- A node of a kind over a span. -/
def Span.node (s : Span) (kind : NodeKind) (children : List Node) : Node :=
  .mk { kind, start := s.start, stop := s.stop } children

/-- A token as a node. -/
def Span.mark (s : Span) (kind : NodeKind) : Node :=
  .mk { kind, start := s.start, stop := s.stop, named := false } []

/-- All the nodes in items. -/
def nodesOf (items : List Item) : List Node := items.flatMap Item.nodes

/-- The span of items from the first to the last. -/
def spanOf (first : Item) (items : List Item) : Span :=
  ⟨first.span.start, (items.getLast?.getD first).span.stop⟩

/-- Words that name nothing. -/
def reserved : List String :=
  ["assert", "await", "break", "case", "catch", "class", "const", "continue", "default", "do",
    "else", "enum", "extends", "false", "final", "finally", "for", "if", "in", "is", "new", "null",
    "rethrow", "return", "super", "switch", "this", "throw", "true", "try", "var", "void", "while",
    "with", "yield"]

/-! ## The front -/

/-- Drops items up to the one that closes `depth` angle brackets, when all of them start with one.
Brackets that are met from behind have `shut` and `opened` exchanged. -/
def dropAngles (opened shut : Char) : Nat → List Item → Option (List Item)
  | _, [] => none
  | depth, i :: rest =>
    if i.symbol? = some opened then dropAngles opened shut (depth + 1) rest
    else match depth with
      | 0 => none
      | d + 1 =>
        if i.symbol? ≠ some shut then dropAngles opened shut (d + 1) rest
        else if d = 0 then some rest
        else dropAngles opened shut d rest

/-- How many items the metadata after an at sign takes: a name of one or more words, then type
arguments and arguments. A group in parentheses right after the name always belongs to it. -/
def metadataLength : List Item → Nat
  | name :: rest =>
    match rest with
    | dot :: more =>
      if dot.symbol? = some '.' then metadataLength more + 2
      else if dot.isRound then 2
      else match dropAngles '<' '>' 0 rest with
        | some (arguments :: others) =>
          let applied := rest.length - (others.length + 1)
          if arguments.isRound then applied + 2
          else match others with
            | _ :: arguments' :: _ =>
              if arguments.symbol? = some '.' && arguments'.isRound then applied + 4 else 1
            | _ => 1
        | _ => if name.isWord then 1 else 0
    | [] => if name.isWord then 1 else 0
  | [] => 0

/-- The metadata at the front, and what follows. -/
def takeMetadata (items : List Item) : List Node × List Item :=
  match items with
  | [] => ([], [])
  | i :: rest =>
    if i.symbol? = some '@' then
      let n := metadataLength rest
      let others := takeMetadata (rest.drop n)
      let taken := rest.take n
      ((spanOf i taken).node .metadata (nodesOf taken) :: others.1, others.2)
    else ([], items)
termination_by items.length
decreasing_by simp only [List.length_drop, List.length_cons]; omega

def modifierKind? : String → Option NodeKind
  | "external" => some .external
  | "static" => some .static
  | _ => none

/-- The modifiers at the front, and what follows. -/
def takeModifiers : List Item → List Node × List Item
  | [] => ([], [])
  | i :: rest =>
    match i.word?.bind modifierKind? with
    | some kind =>
      let others := takeModifiers rest
      (i.span.mark kind :: others.1, others.2)
    | none => ([], i :: rest)

/-- A declaration without what stands before its type. -/
structure Lead where
  metadata : List Node
  modifiers : List Node
  rest : List Item

def Lead.ofItems (items : List Item) : Lead :=
  let (metadata, others) := takeMetadata items
  let (modifiers, rest) := takeModifiers others
  ⟨metadata, modifiers, rest⟩

def Lead.isStatic (l : Lead) : Bool := l.modifiers.any (·.kind = .static)

/-! ## The back -/

/-- The head of a function, getter, setter or operator. -/
structure Header where
  kind : NodeKind
  /-- The items of the return type. -/
  type : List Item
  keyword : Option (NodeKind × Span)
  name : Span
  generic : Bool

/-- Can an item of a type stand after another one? Words are not side by side, except before
`Function`, which also follows complete types, and around the bound of a type parameter. -/
def mayFollow (before i : Item) : Bool :=
  let complete := before.isWord || before.isRound || before.symbol?.any ">?".toList.contains
  let opened := before.symbol?.any "<,".toList.contains
  match i.word?, i.symbol? with
  | some "Function", _ => complete || opened
  | some "extends", _ => before.isWord
  | some _, _ => opened || before.symbol? = some '.' || before.isOneOf ["extends"]
  | none, some '<' => before.isWord
  | none, some '.' => before.isWord
  | none, some _ => complete
  | none, none => opened || before.isOneOf ["Function"] || before.symbol? = some '>'

/-- Can this item be a part of a type? -/
def isTypePart (i : Item) : Bool :=
  match i.word? with
  | some w => w = "void" || w = "extends" || !reserved.contains w
  | none => i.isRound || i.symbol?.any "<>,.?".toList.contains

/-- Can these items be a return type, or none at all? -/
def isType (items : List Item) : Bool :=
  match items with
  | [] => true
  | first :: rest =>
    (first.isRound || first.isWord) && items.all isTypePart &&
      (items.zip rest).all (fun (before, i) => mayFollow before i) &&
      (items.getLast?.bind Item.symbol?).all ">?".toList.contains

/-- Takes the mark of an asynchronous or generating function off the end. The items are given in
reverse, here and below. -/
def dropMarker : List Item → List Item
  | star :: w :: before =>
    if star.symbol? = some '*' && w.isOneOf ["async", "sync"] then before
    else if star.isOneOf ["async"] then
      match w.isRound, before with
      | true, _ => w :: before
      | false, keyword :: _ => if keyword.isOneOf ["get"] then w :: before else star :: w :: before
      | false, [] => star :: w :: before
    else star :: w :: before
  | items => items

/-- Takes the word `native` and its string off the end. -/
def dropNative : List Item → List Item
  | last :: w :: before =>
    if last.isString && w.isOneOf ["native"] then before
    else if last.isOneOf ["native"] && w.isRound then w :: before
    else last :: w :: before
  | items => items

/-- An operator before its parameters: symbols after the word `operator`. -/
def operatorHeader? (before : List Item) : Option Header :=
  let symbols := before.takeWhile fun i => i.symbol?.isSome || i.isSquare
  match symbols, before.drop symbols.length with
  | last :: _, keyword :: type =>
    if keyword.isOneOf ["operator"] then
      some ⟨.operatorSignature, type.reverse, some (.operator, keyword.span),
        ⟨(symbols.getLast?.getD last).span.start, last.span.stop⟩, false⟩
    else none
  | _, _ => none

/-- Can an item be the name of what is declared? After a type or a keyword every word can, but for
those that go on with a type or an expression. -/
def isName (i : Item) (before : List Item) : Bool :=
  i.isWord && !i.isOneOf ["Function", "is"] && (!before.isEmpty || !i.isOneOf reserved)

/-- A function or a setter before its parameters. -/
def functionHeader? (generic : Bool) : List Item → Option Header
  | name :: before =>
    if !isName name before then none
    else match before with
      | keyword :: type =>
        if keyword.isOneOf ["set"] then
          some ⟨.setterSignature, type.reverse, some (.set, keyword.span), name.span, generic⟩
        else some ⟨.functionSignature, before.reverse, none, name.span, generic⟩
      | [] => some ⟨.functionSignature, [], none, name.span, generic⟩
  | [] => none

/-- What stands before parameters. -/
def parametersHeader? (before : List Item) : Option Header :=
  match operatorHeader? before, dropAngles '>' '<' 0 before with
  | some h, _ => some h
  | none, some others => functionHeader? true others
  | none, none => functionHeader? false before

/-- A head without parameters is a getter. -/
def getterHeader? : List Item → Option Header
  | name :: keyword :: type =>
    if isName name [keyword] && keyword.isOneOf ["get"] then
      some ⟨.getterSignature, type.reverse, some (.get, keyword.span), name.span, false⟩
    else none
  | _ => none

/-- The head that these items are, without metadata and modifiers. -/
def header? (items : List Item) : Option Header :=
  let h := match dropMarker (dropNative items.reverse) with
    | last :: before =>
      if last.isRound then
        if last.isFormal then parametersHeader? before else none
      else getterHeader? (last :: before)
    | [] => none
  h.filter fun h => isType h.type

/-- The signature as a node. -/
def Header.node (h : Header) : Node :=
  let name := Node.mk
    { kind := .identifier, start := h.name.start, stop := h.name.stop, holdsName := true } []
  let keyword := (h.keyword.map fun k => k.2.mark k.1).toList
  let type := match h.type with
    | first :: others => [(spanOf first others).node (.other "type") []]
    | [] => []
  let children := type ++ keyword ++ [name]
  .mk { kind := h.kind, start := (children.head?.getD name).start, stop := h.name.stop } children

end DartComments.Dart
