import DartComments.Proofs.Tree.Order

/-!
# Faults of a tree

A parser marks the nodes that have a fault in them, and the search for the first fault goes only
where there is such a mark. When the marks are consistent, that is as good as a search through all
nodes in document order:

    n.firstFault? = (n.preorder.find? (·.info.isFault)).map Node.info      (firstFault?_eq_find?)

So a tree with a fault anywhere is refused, with the line of its first one, whatever declarations it
may have; and no other tree is refused in that way.
-/

namespace DartComments

namespace Node

mutual

/-- The nodes of a tree in document order, each before those below it. -/
def preorder : Node → List Node
  | .mk info children => .mk info children :: preorderAll children

/-- The nodes of trees that stand side by side. -/
def preorderAll : List Node → List Node
  | [] => []
  | n :: ns => n.preorder ++ preorderAll ns

end

/-- A node is marked when it is a fault itself or one of its children is marked, and only then. -/
def Consistent (n : Node) : Prop := n.Everywhere fun m =>
  m.hasFault = true ↔ m.info.isFault = true ∨ ∃ c ∈ m.children, c.hasFault = true

/-- Node `m` is a fault of a tree, and none comes before it in document order. -/
structure FirstFault (n m : Node) : Prop where
  isFault : m.info.isFault = true
  first : ∃ before after, n.preorder = before ++ m :: after ∧
    ∀ x ∈ before, x.info.isFault = false

/-- The number of line feeds before a node. -/
def row (bytes : Bytes) (n : Node) : Nat := (bytes.take (position bytes n.start)).count 0x0A

/-- What there is to say of a node that is a fault. -/
def complaint (n : Node) : Text :=
  if n.info.missing then "missing '" ++ n.kind.label ++ "'" else "unsupported or invalid syntax"

/-! ## All nodes -/

mutual

theorem exists_at?_of_mem_preorder {m : Node} :
    ∀ {n : Node}, m ∈ n.preorder → ∃ p, n.at? p = some m
  | .mk info children, hm => by
    rw [preorder, List.mem_cons] at hm
    rcases hm with rfl | hm
    · exact ⟨[], rfl⟩
    · obtain ⟨i, c, p, hc, hp⟩ := exists_at?_of_mem_preorderAll hm
      have hchild : (Node.mk info children).children[i]? = some c := hc
      refine ⟨i :: p, ?_⟩
      rw [at?, hchild]
      exact hp

theorem exists_at?_of_mem_preorderAll {m : Node} :
    ∀ {ns : List Node}, m ∈ preorderAll ns →
      ∃ (i : Nat) (c : Node) (p : List Nat), ns[i]? = some c ∧ c.at? p = some m
  | [], hm => by
    rw [preorderAll] at hm
    cases hm
  | n :: ns, hm => by
    rw [preorderAll, List.mem_append] at hm
    rcases hm with hm | hm
    · obtain ⟨p, hp⟩ := exists_at?_of_mem_preorder hm
      exact ⟨0, n, p, rfl, hp⟩
    · obtain ⟨i, c, p, hc, hp⟩ := exists_at?_of_mem_preorderAll hm
      exact ⟨i + 1, c, p, hc, hp⟩

end

theorem mem_preorder_self (n : Node) : n ∈ n.preorder := by
  obtain ⟨info, children⟩ := n
  rw [preorder]
  exact List.mem_cons_self

theorem mem_preorderAll_of_mem {n m : Node} {ns : List Node} (hn : n ∈ ns)
    (hm : m ∈ n.preorder) : m ∈ preorderAll ns := by
  induction ns with
  | nil => cases hn
  | cons n' ns ih =>
    rw [preorderAll, List.mem_append]
    rcases List.mem_cons.mp hn with rfl | hn
    · exact .inl hm
    · exact .inr (ih hn)

theorem mem_preorder_of_at? {n m : Node} {p : List Nat} (h : n.at? p = some m) :
    m ∈ n.preorder := by
  induction p generalizing n with
  | nil =>
    obtain rfl := Option.some.inj h
    exact mem_preorder_self n
  | cons i p ih =>
    obtain ⟨info, children⟩ := n
    rw [at?] at h
    obtain ⟨c, hc, hbelow⟩ := Option.bind_eq_some_iff.mp h
    rw [preorder]
    exact List.mem_cons_of_mem _ (mem_preorderAll_of_mem (List.mem_of_getElem? hc) (ih hbelow))

/-- The nodes in document order are those at the positions of the tree. -/
theorem mem_preorder {n m : Node} : m ∈ n.preorder ↔ ∃ p, n.at? p = some m :=
  ⟨exists_at?_of_mem_preorder, fun ⟨_, hp⟩ => mem_preorder_of_at? hp⟩

/-! ## Marks -/

mutual

/-- With consistent marks a node is marked exactly when there is a fault at or below it. -/
theorem hasFault_iff : ∀ {n : Node}, n.Consistent →
    (n.hasFault = true ↔ ∃ m ∈ n.preorder, m.info.isFault = true)
  | .mk info children, h => by
    obtain ⟨hn, hbelow⟩ := everywhere_iff.mp h
    rw [hn, preorder, List.exists_mem_cons_iff]
    exact or_congr_right (exists_hasFault_iff hbelow)

theorem exists_hasFault_iff : ∀ {ns : List Node}, (∀ n ∈ ns, n.Consistent) →
    ((∃ n ∈ ns, n.hasFault = true) ↔ ∃ m ∈ preorderAll ns, m.info.isFault = true)
  | [], _ => by simp [preorderAll]
  | n :: ns, h => by
    obtain ⟨hn, hns⟩ := List.forall_mem_cons.mp h
    rw [preorderAll, List.exists_mem_cons_iff, hasFault_iff hn, exists_hasFault_iff hns]
    simp only [List.mem_append, or_and_right, exists_or]

end

/-- There is nothing to find where there is no mark. -/
theorem find?_preorder_eq_none {n : Node} (h : n.Consistent) (hfault : n.hasFault = false) :
    n.preorder.find? (·.info.isFault) = none := by
  refine List.find?_eq_none.mpr fun m hm hf => ?_
  rw [(hasFault_iff h).mpr ⟨m, hm, hf⟩] at hfault
  cases hfault

/-- The search among siblings goes on where it has found nothing. -/
theorem firstFaultIn?_cons (n : Node) (ns : List Node) :
    firstFaultIn? (n :: ns) =
      if n.hasFault || n.info.missing then n.firstFault?.or (firstFaultIn? ns)
      else firstFaultIn? ns := by
  rw [firstFaultIn?]
  split
  · cases n.firstFault? <;> rfl
  · rfl

mutual

/-- With consistent marks the search finds what a search through all nodes does. -/
theorem firstFault?_eq_find? : ∀ {n : Node}, n.Consistent →
    n.firstFault? = (n.preorder.find? (·.info.isFault)).map Node.info
  | .mk info children, h => by
    have hbelow := firstFaultIn?_eq_find? (everywhere_iff.mp h).2
    rw [firstFault?, preorder, List.find?_cons]
    show (if info.isFault then some info else firstFaultIn? children) =
      Option.map Node.info (match info.isFault with
        | true => some (.mk info children)
        | false => (preorderAll children).find? (·.info.isFault))
    cases info.isFault with
    | true => rfl
    | false => exact hbelow

theorem firstFaultIn?_eq_find? : ∀ {ns : List Node}, (∀ n ∈ ns, n.Consistent) →
    firstFaultIn? ns = ((preorderAll ns).find? (·.info.isFault)).map Node.info
  | [], _ => by
    rw [firstFaultIn?, preorderAll]
    rfl
  | n :: ns, h => by
    obtain ⟨hn, hns⟩ := List.forall_mem_cons.mp h
    rw [firstFaultIn?_cons, preorderAll, List.find?_append, Option.map_or, firstFault?_eq_find? hn,
      firstFaultIn?_eq_find? hns]
    split
    · rfl
    · next hmark =>
      obtain ⟨hfault, -⟩ : n.hasFault = false ∧ n.info.missing = false := by simpa using hmark
      rw [find?_preorder_eq_none hn hfault]
      rfl

end

theorem FirstFault.find? {n m : Node} (h : FirstFault n m) :
    n.preorder.find? (·.info.isFault) = some m := by
  obtain ⟨before, after, hsplit, hbefore⟩ := h.first
  rw [List.find?_eq_some_iff_append]
  exact ⟨h.isFault, before, after, hsplit, fun x hx => by simp [hbefore x hx]⟩

theorem exists_firstFault {n m : Node} (hm : m ∈ n.preorder) (hf : m.info.isFault = true) :
    ∃ first, n.FirstFault first := by
  cases hfind : n.preorder.find? (·.info.isFault) with
  | none => exact absurd hf (List.find?_eq_none.mp hfind m hm)
  | some first =>
    obtain ⟨hfault, before, after, hsplit, hbefore⟩ := List.find?_eq_some_iff_append.mp hfind
    exact ⟨first, hfault, before, after, hsplit, fun x hx => by simpa using hbefore x hx⟩

end Node

namespace Locate

/-- Only a fault of the tree is told as one. -/
theorem declare_ne_misparsed {h : Head} {bytes : Bytes} {offsets : Offsets} {path : Option Text}
    {missing : Option NodeKind} {line : Nat} :
    h.declare bytes offsets ≠ .error (.misparsed path missing line) := by
  intro he
  rw [Head.declare, Locate.declare] at he
  dsimp only at he
  split at he
  · cases he
  split at he
  · cases he
  rcases bind_eq_error.mp he with hstart | ⟨_, -, he⟩
  · obtain ⟨_, -, hoffset⟩ := mapError_eq_error.mp hstart
    cases hoffset
  rcases bind_eq_error.mp he with hstop | ⟨_, -, he⟩
  · obtain ⟨_, -, hoffset⟩ := mapError_eq_error.mp hstop
    cases hoffset
  rcases bind_eq_error.mp he with hrange | ⟨_, -, he⟩
  · obtain ⟨_, -, hrange⟩ := mapError_eq_error.mp hrange
    cases hrange
  · cases he

/-- A unit is refused for a fault exactly when its tree is marked. -/
theorem exists_misparsed_iff {u : SourceUnit} :
    (∃ path missing line, u.declarations = .error (.misparsed path missing line)) ↔
      u.tree.hasFault = true := by
  rw [SourceUnit.declarations]
  cases u.tree.hasFault with
  | true =>
    refine iff_of_true ?_ rfl
    rw [if_pos rfl, fault]
    split
    · exact ⟨_, _, _, rfl⟩
    · exact ⟨_, _, _, rfl⟩
  | false =>
    refine iff_of_false ?_ (by simp)
    rintro ⟨path, missing, line, he⟩
    rw [if_neg (by simp), below_eq_mapM] at he
    obtain ⟨_, -, he⟩ := exists_of_mapM_eq_error he
    exact declare_ne_misparsed he

/-- The first fault is the one that is told. -/
theorem declarations_of_firstFault {u : SourceUnit} (h : u.tree.Consistent) {m : Node}
    (hm : u.tree.FirstFault m) :
    u.declarations = .error
      (.misparsed u.path (if m.info.missing then some m.kind else none) (m.row u.bytes + 1)) := by
  have hmarked : u.tree.hasFault = true :=
    (Node.hasFault_iff h).mpr ⟨m, List.mem_of_find?_eq_some hm.find?, hm.isFault⟩
  have hfound : u.tree.firstFault? = some m.info := by
    rw [Node.firstFault?_eq_find? h, hm.find?]
    rfl
  rw [SourceUnit.declarations, if_pos hmarked, fault, hfound]
  rfl

theorem message_misparsed (path : Option Text) (m : Node) (line : Nat) :
    (LocateError.misparsed path (if m.info.missing then some m.kind else none) line).message =
      "Cannot parse " ++ path.getD "source" ++ ": " ++ m.complaint ++ " at line " ++
        Text.ofNat line := by
  unfold Node.complaint
  cases m.info.missing <;> rfl

/-- **Faults are found, and the first one is told.** In a tree with consistent marks, locating is
refused for a fault exactly when some node is one. The error is then that of the first fault in
document order, whatever declarations there are: it tells the line, and the kind of the node if it
is missing. The marks only shorten the search. -/
theorem declarations_refused_for_first_fault (u : SourceUnit) (h : u.tree.Consistent) :
    ((∃ path missing line, u.declarations = .error (.misparsed path missing line)) ↔
      ∃ p m, u.tree.at? p = some m ∧ m.info.isFault = true) ∧
    ((∃ p m, u.tree.at? p = some m ∧ m.info.isFault = true) →
      ∃ m e, u.tree.FirstFault m ∧ u.declarations = .error e ∧
        e = .misparsed u.path (if m.info.missing then some m.kind else none) (m.row u.bytes + 1) ∧
        e.message = "Cannot parse " ++ u.path.getD "source" ++ ": " ++ m.complaint ++
          " at line " ++ Text.ofNat (m.row u.bytes + 1)) ∧
    u.tree.firstFault? = (u.tree.preorder.find? (·.info.isFault)).map Node.info := by
  refine ⟨?_, ?_, Node.firstFault?_eq_find? h⟩
  · rw [exists_misparsed_iff, Node.hasFault_iff h]
    constructor
    · rintro ⟨m, hm, hf⟩
      obtain ⟨p, hp⟩ := Node.mem_preorder.mp hm
      exact ⟨p, m, hp, hf⟩
    · rintro ⟨p, m, hp, hf⟩
      exact ⟨m, Node.mem_preorder.mpr ⟨p, hp⟩, hf⟩
  · rintro ⟨p, m, hp, hf⟩
    obtain ⟨first, hfirst⟩ := Node.exists_firstFault (Node.mem_preorder.mpr ⟨p, hp⟩) hf
    exact ⟨first, _, hfirst, declarations_of_firstFault h hfirst, rfl, message_misparsed _ first _⟩

/-- `a`, a line feed and `b(`, where a parenthesis is missing; after it there is an error node with
another missing one in it. -/
def unclosedUnit : SourceUnit :=
  let bytes := [97, 10, 98, 40]
  let closing : Node := .mk { kind := .other ")", start := 4, stop := 4, missing := true } []
  { path := none
    source := Utf8.decodeEscaped bytes
    bytes
    tree := .mk { kind := .other "program", start := 0, stop := 4, faulty := some true }
      [leaf .identifier 0 1,
        .mk { kind := .other "call", start := 2, stop := 4, faulty := some true }
          [leaf .identifier 2 3, leaf (.other "(") 3 4, closing],
        .mk { kind := .error, start := 4, stop := 4 } [closing]] }

theorem unclosedUnit_consistent : unclosedUnit.tree.Consistent := by
  simp [unclosedUnit, leaf, Node.Consistent, Node.everywhere_mk, Node.hasFault, Node.anyFault,
    NodeInfo.isFault, Node.info, Node.children]

/-- The first of the three faults is told, on line 2. -/
theorem unclosedUnit_refused : unclosedUnit.tree.Consistent ∧
    ∃ m e, unclosedUnit.tree.FirstFault m ∧ m.info.missing = true ∧
      unclosedUnit.declarations = .error e ∧
      e.message = "Cannot parse source: missing ')' at line 2" := by
  have hexists : ∃ p m, unclosedUnit.tree.at? p = some m ∧ m.info.isFault = true :=
    ⟨[1, 2], _, rfl, rfl⟩
  obtain ⟨m, e, hfirst, he, -, hmessage⟩ :=
    (declarations_refused_for_first_fault unclosedUnit unclosedUnit_consistent).2.1 hexists
  have hm : m = .mk { kind := .other ")", start := 4, stop := 4, missing := true } [] := by
    have hfind := hfirst.find?
    cases hfind.symm.trans rfl
    rfl
  subst hm
  exact ⟨unclosedUnit_consistent, _, e, hfirst, rfl, he, hmessage⟩

end Locate

end DartComments
