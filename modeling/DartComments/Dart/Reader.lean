import DartComments.Dart.Expression

/-!
# Reading Dart

A tree with the declarations of a source in their places: functions, getters and setters as
siblings of their bodies, members in wrappers, and local functions wherever a block can stand, in
the initialisers of variables too. Of everything else the tree has only what can hold a declaration.

The forest of a source is read from left to right. A declaration or statement begins with its head,
which ends at braces, at an arrow, at an equals sign, or at the colon of a constructor; after the
last three an expression follows, and the end is a semicolon. What has been read of the head decides
what braces after it hold: statements, members, or the constants of an enumeration.
-/

namespace DartComments.Dart

/-- What a stretch of source is made of. -/
inductive Context where
  | unit
  | members
  /-- The constants of an enumeration, and its members after the first semicolon. -/
  | constants
  | statements
  /-- Statements, the first of which is a block that clauses may follow. -/
  | guarded
  /-- Statements, before which the clauses of a `try` may stand. -/
  | clauses
  | expression
deriving DecidableEq

def Context.isStatements : Context → Bool
  | .statements | .guarded | .clauses => true
  | _ => false

/-- How far a declaration or statement has been read. -/
inductive Stage where
  | head
  /-- The expression after an arrow. -/
  | arrow (head : List Item)
  /-- The expression after an equals sign. -/
  | value (head : List Item)
  /-- The initialisers of a constructor. -/
  | initialisers

/-- A declaration or statement that has not ended yet: its items in reverse. -/
structure Progress where
  stage : Stage := .head
  items : List Item := []
  place : Place := .operand

/-- One more token. -/
def Progress.push (s : Progress) (t : Token) (rest : Forest) : Progress :=
  { s with items := .token t :: s.items, place := s.place.next t.lexeme rest }

namespace Reader

/-! ## Heads -/

/-- Does a class or the like start here? The result is what its braces hold. -/
def body? (items : List Item) : Option Context :=
  match items.dropWhile (·.isOneOf ["abstract", "base", "sealed", "final", "interface"]) with
  | keyword :: next :: others =>
    if keyword.isOneOf ["enum"] && next.isWord then some .constants
    else if keyword.isOneOf ["class", "mixin"] && next.isWord then some .members
    else if keyword.isOneOf ["extension"] && (next :: others).any (·.isOneOf ["on"]) then
      some .members
    else none
  | _ => none

/-- What follows the name and the parameters of a constructor. -/
def afterConstructor? : List Item → Option (List Item)
  | w :: rest =>
    if w.isOneOf ["const", "factory"] && rest.head?.any Item.isWord then afterConstructor? rest
    else if !w.isWord then none
    else match rest with
      | parameters :: others =>
        if parameters.isRound then some others
        else match others with
          | _ :: parameters' :: others' =>
            if parameters.symbol? = some '.' && parameters'.isRound then some others' else none
          | _ => none
      | [] => none
  | [] => none

/-- Is this the whole head of a constructor? -/
def isConstructor (items : List Item) : Bool :=
  match afterConstructor? (dropMarker items.reverse).reverse with
  | some rest => rest.isEmpty
  | none => false

/-- Drops names with commas before them. These items are in reverse. -/
def dropNames : List Item → List Item
  | name :: comma :: rest =>
    if name.isWord && comma.symbol? = some ',' then dropNames rest else name :: comma :: rest
  | items => items

/-- Words before the type or the name of a variable. -/
def variableWords : List String :=
  ["abstract", "const", "covariant", "external", "final", "late", "static", "var"]

/-- Do these items declare variables, with a type or with words that stand in place of it? -/
def isVariables (items : List Item) : Bool :=
  let typed := items.dropWhile (·.isOneOf variableWords)
  match dropNames typed.reverse with
  | name :: type =>
    isName name type && isType type.reverse &&
      !(type.isEmpty && typed.length = items.length)
  | [] => false

/-- Are there two words side by side, neither of which belongs in an expression? -/
def hasNeighbours (items : List Item) : Bool :=
  (items.zip (items.drop 1)).any fun (i, j) =>
    i.isWord && j.isWord && !i.isOneOf ("as" :: "is" :: Place.openers) && !j.isOneOf ["as", "is"]

/-- Do these items, which are in reverse, end with a part of an operator's name? -/
def namesOperator (items : List Item) : Bool :=
  ((items.dropWhile fun i => i.symbol?.isSome || i.isSquare).head?).any (·.isOneOf ["operator"])

/-! ## Statements -/

/-- Words that start a statement and nothing else. -/
def statementWords : List String := ["if", "for", "while", "do", "try", "switch"]

/-- A word of a statement before which nothing stands, and what follows it. -/
def afterWord? : String → Option Context
  | "else" => some .statements
  | "do" => some .statements
  | "finally" => some .statements
  | "try" => some .guarded
  | _ => none

/-- Parentheses after these items, which are in reverse, end the head of a compound statement; the
result is what follows them. -/
def afterCondition? (items : List Item) : Option Context :=
  match items with
  | [w] =>
    if w.isOneOf ["if", "for", "while"] then some .statements
    else if w.isOneOf ["catch"] then some .guarded
    else none
  | [w, before] =>
    if w.isOneOf ["for"] && before.isOneOf ["await"] then some .statements else none
  | _ => none

/-- Is a colon after these items, which are in reverse, the end of a label? -/
def endsLabel (items : List Item) : Bool :=
  match items with
  | [i] => i.isWord
  | _ => items.getLast?.any (·.isOneOf ["case"])

/-- Do these items, which are in reverse, start a clause for one type of exception? -/
def isTypeClause (c : Context) (items : List Item) : Bool :=
  c = .clauses && items.getLast?.any (·.isOneOf ["on"])

/-- Are these items, which are in reverse, a `switch` with its subject? -/
def endsSubject (items : List Item) : Bool :=
  match items with
  | [subject, w] => subject.isRound && w.isOneOf ["switch"]
  | _ => false

/-- The context in which the next item is read: statements may follow the declarations of a
source. -/
def effective (c : Context) (s : Progress) (l : Lexeme) : Context :=
  match c, s.items, l with
  | .unit, [], .word w => if statementWords.contains w then .statements else .unit
  | .unit, [], .opening .curly => .statements
  | _, _, _ => c

/-! ## Tokens -/

/-- What a token or a group does to a declaration or statement. -/
inductive Move where
  /-- It goes on. -/
  | keep (s : Progress)
  /-- It ends here. -/
  | finish (next : Context)
  /-- All that was read is done with, and something new has begun. -/
  | begin (next : Context) (s : Progress)

/-- What a context turns into at the end of a declaration or statement. -/
def following : Context → Context
  | .constants => .members
  | .guarded | .clauses => .statements
  | c => c

/-- A token in the head of a declaration or statement. -/
def headMove (c : Context) (s : Progress) (t : Token) (rest : Forest) : Move :=
  match t.lexeme with
  | .arrow => .keep { s.push t rest with stage := .arrow s.items.reverse, place := .operand }
  | .symbol '=' =>
    if namesOperator s.items then .keep (s.push t rest)
    else .keep { s.push t rest with stage := .value s.items.reverse, place := .operand }
  | .symbol ':' =>
    if c = .members && isConstructor (Lead.ofItems s.items.reverse).rest then
      .keep { s.push t rest with stage := .initialisers, place := .operand }
    else .keep (s.push t rest)
  | _ => .keep (s.push t rest)

/-- A token at the start or in the middle of a statement. -/
def statementMove? (c : Context) (s : Progress) (t : Token) : Option Move :=
  match t.lexeme with
  | .word w =>
    if s.items.isEmpty then (afterWord? w).map fun next => .begin next {}
    else if w = "catch" && isTypeClause c s.items then
      some (.begin .clauses { items := [.token t], place := .done })
    else none
  | .symbol ':' => if endsLabel s.items then some (.begin .statements {}) else none
  | _ => none

def tokenMove (c : Context) (s : Progress) (t : Token) (rest : Forest) : Move :=
  if t.lexeme = .symbol ';' && c ≠ .expression then .finish (following c)
  else match (if c.isStatements then statementMove? c s t else none), s.stage, c with
    | some m, _, _ => m
    | none, _, .expression => .keep (s.push t rest)
    | none, _, .constants => .keep (s.push t rest)
    | none, .head, _ => headMove c s t rest
    | none, _, _ => .keep (s.push t rest)

/-! ## Groups -/

/-- What braces in an expression hold. -/
def heldBy : Braces → Context
  | .closure => .statements
  | _ => .expression

/-- What the braces after a head hold, and whether the declaration or statement ends with them. -/
def headBraces? (c : Context) (s : Progress) : Option (Context × Context) :=
  let items := (Lead.ofItems s.items.reverse).rest
  match c with
  | .unit =>
    match body? items with
    | some held => some (held, .unit)
    | none => if (header? items).isSome then some (.statements, .unit) else none
  | .members =>
    if (header? items).isSome || isConstructor items then some (.statements, .members) else none
  | .statements | .guarded | .clauses =>
    if s.items.isEmpty then
      some (.statements, if c = .guarded then .clauses else .statements)
    else if isTypeClause c s.items then some (.statements, .clauses)
    else if endsSubject s.items || (header? items).isSome then some (.statements, .statements)
    else none
  | .constants | .expression => none

/-- What braces hold, and the context after them if the declaration or statement ends with them. -/
def braces (c : Context) (s : Progress) (rest : Forest) : Context × Option Context :=
  match s.stage with
  | .head =>
    match headBraces? c s with
    | some (held, next) => (held, some next)
    | none => (heldBy s.place.braces, none)
  | .initialisers =>
    match s.place.bracesBeforeBody rest with
    | .outside => (.statements, some .members)
    | b => (heldBy b, none)
  | _ => (heldBy s.place.braces, none)

/-- The place after a group. -/
def placeAfter (p : Place) (b : Bracket) (formal : Bool) (rest : Forest) : Place :=
  if b = .curly then .done
  else match p.next (.opening b) rest with
    | .parameters _ => .parameters formal
    | q => q

/-- What a group holds. -/
def held (c : Context) (s : Progress) (b : Bracket) (rest : Forest) : Context :=
  if b = .curly then (braces c s rest).1 else .expression

/-- What a group does. -/
def groupMove (c : Context) (s : Progress) (item : Item) (b : Bracket) (formal : Bool)
    (rest : Forest) : Move :=
  let kept := .keep { s with items := item :: s.items, place := placeAfter s.place b formal rest }
  match b, c.isStatements with
  | .curly, _ =>
    match (braces c s rest).2 with
    | some next => .finish next
    | none => kept
  | .round, true =>
    match afterCondition? s.items with
    | some next => .begin next {}
    | none => kept
  | _, _ => kept

/-! ## Declarations and statements -/

/-- A node for what is no declaration. -/
def other (label : String) (items : List Item) : List Node :=
  match items with
  | first :: rest => [(spanOf first rest).node (.other label) (nodesOf items)]
  | [] => []

/-- Items that could not be read. -/
def unread : List Item → List Node
  | first :: rest => [(spanOf first rest).node .error []]
  | [] => []

/-- The last item as a node: a semicolon, or braces with what they hold. -/
def endNode (i : Item) : Node :=
  match i with
  | .token t => t.span.mark .semicolon
  | .group _ s _ ns => s.node .block ns

/-- The head of what ends now. -/
def headOf (s : Progress) : List Item :=
  match s.stage with
  | .arrow head => head
  | .value head => head
  | _ => s.items.reverse

/-- The items after an arrow. -/
def bodyOf (s : Progress) : List Item :=
  match s.stage with
  | .arrow head => s.items.reverse.drop head.length
  | _ => []

/-- The terminator of a function: its body, or the semicolon in place of one. -/
def terminator (body : List Item) (last : Item) : Node :=
  match body, last with
  | [], .token _ => endNode last
  | _, _ =>
    (spanOf (body.head?.getD last) [last]).node .functionBody (nodesOf body ++ [endNode last])

/-- Does a source-wide directive or the definition of a type start here? -/
def isDirective (items : List Item) : Bool :=
  items.head?.any (·.isOneOf ["import", "export", "library", "part", "typedef"])

/-- Is something of a source known not to be of its language? A statement may stand there too, so
that only an arrow after it or words that cannot be neighbours tell. -/
def isFaulty (s : Progress) (head : List Item) : Bool :=
  !(isDirective head || (body? head).isSome || isVariables head) &&
    match s.stage with
    | .arrow _ => head.head?.any Item.isWord
    | .initialisers => true
    | _ => hasNeighbours head

/-- A declaration of a source. -/
def declaration (s : Progress) (last : Item) : List Node :=
  let items := s.items.reverse ++ [last]
  let lead := Lead.ofItems (headOf s)
  let header := (header? lead.rest).filter (·.kind ≠ .operatorSignature)
  match isDirective lead.rest || (body? lead.rest).isSome, s.stage, header with
  | false, .head, some h =>
    lead.metadata ++ lead.modifiers ++ [h.node, terminator [] last]
  | false, .arrow _, some h =>
    lead.metadata ++ lead.modifiers ++ [h.node, terminator (bodyOf s) last]
  | _, _, _ => if isFaulty s lead.rest then unread items else other "declaration" items

/-- Is a head the head of a method? A name with parameters and nothing else is a constructor, except
that none can be called `get` or `set`. -/
def isMethod (lead : Lead) (h : Header) : Bool :=
  let name := lead.rest.head?
  lead.isStatic ||
    (!(name.any (·.isOneOf ["factory"]) && ((lead.rest.drop 1).head?.any Item.isWord)) &&
      (h.kind ≠ .functionSignature || h.generic || !h.type.isEmpty ||
        name.any (·.isOneOf ["get", "set"])))

/-- A method. -/
def method (lead : Lead) (h : Header) (finish : Node) : List Node :=
  let kind := if finish.kind = .semicolon then NodeKind.declaration else .methodSignature
  let children := lead.modifiers ++ [h.node]
  let first := children.head?.getD h.node
  lead.metadata ++ [Node.spanning first h.node kind children, finish]

/-- A member of a class or the like: a method, a constructor, or variables. -/
def member (s : Progress) (last : Item) : List Node :=
  let items := s.items.reverse ++ [last]
  let lead := Lead.ofItems (headOf s)
  let known := isConstructor lead.rest || isVariables lead.rest
  let plain := other "member" items
  match s.stage, (header? lead.rest).filter (isMethod lead) with
  | .head, some h => method lead h (terminator [] last)
  | .arrow _, some h => method lead h (terminator (bodyOf s) last)
  | .initialisers, _ => plain
  | _, _ => if known then plain else unread items

/-- A statement. A local function has a body, and its metadata is not next to its signature. -/
def statement (c : Context) (s : Progress) (last : Item) : List Node :=
  let plain := other "statement" (s.items.reverse ++ [last])
  let lead := Lead.ofItems (headOf s)
  let finish := terminator (bodyOf s) last
  match s.stage, isTypeClause c s.items, header? lead.rest, finish.kind with
  | .value _, _, _, _ => plain
  | _, false, some h, .functionBody =>
    lead.metadata ++
      [Node.spanning h.node finish (.other "local_function") [h.node, finish]]
  | _, _, _, _ => plain

/-- What ends with `last`. Only a statement can be a semicolon alone. -/
def complete (c : Context) (s : Progress) (last : Item) : List Node :=
  match c, s.items with
  | .unit, [] | .members, [] => unread [last]
  | .unit, _ => declaration s last
  | .members, _ => member s last
  | .constants, _ => other "constants" (s.items.reverse ++ [last])
  | .expression, _ => nodesOf (s.items.reverse ++ [last])
  | _, _ => statement c s last

/-- What is left when nothing follows. Declarations and members have to end with a semicolon or
with braces. -/
def leftOver (c : Context) (items : List Item) : List Node :=
  match c with
  | .unit | .members => unread items
  | _ => nodesOf items

/-- The nodes of a forest, of which a part has been read. -/
def read (c : Context) (s : Progress) : Forest → List Node
  | .nil => leftOver c s.items.reverse
  | .leaf t rest =>
    let here := effective c s t.lexeme
    match tokenMove here s t rest with
    | .keep s => read here s rest
    | .finish next => complete here s (.token t) ++ read next {} rest
    | .begin next s' => nodesOf s.items.reverse ++ read next s' rest
  | .group b span inner rest =>
    let here := effective c s (.opening b)
    let formal := inner.isParameters false
    let item := Item.group b span formal (read (held here s b rest) {} inner)
    match groupMove here s item b formal rest with
    | .keep s => read here s rest
    | .finish next => complete here s item ++ read next {} rest
    | .begin next s' => nodesOf (item :: s.items).reverse ++ read next s' rest

end Reader

/-- The tree of a source. Brackets that do not match leave nothing but the fault. -/
def parse (bytes : Bytes) : Node :=
  let children := match Forest.ofTokens (Token.ofBytes bytes) with
    | .ok forest => Reader.read .unit {} forest
    | .error fault => [fault.node .error []]
  Span.node ⟨0, bytes.length⟩ (.other "program") children

end DartComments.Dart
