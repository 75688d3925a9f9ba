import DartComments.Proofs.Comment.Insertion
import DartComments.Proofs.Tree.Ranges

/-!
# Heads without a name or a type

A head has the shape of a declaration when its signature has a name and a return type. In a tree
over a source without faults locating can end in two ways only. When every reported head has that
shape, it gives ranges that lie in the source, wherever the offsets fall, and comments can be put in
at all of them. Otherwise the first one in document order that has not is refused, with the line of
its signature.
-/

namespace DartComments

namespace Locate

/-- A head with a name and a return type. -/
def Head.Shaped (h : Head) : Prop :=
  ∃ name type, nameNode? h.signature = some name ∧ returnType? h.signature name = some type

/-- The line of a head: one more than the line feeds before its signature. -/
def Head.line (h : Head) (bytes : Bytes) : Nat :=
  (bytes.take h.signature.start.toNat).count 0x0A + 1

/-- How a head is refused that has no name, or no return type before its name. -/
inductive Head.Refused (bytes : Bytes) (h : Head) : LocateError → Prop where
  | unnamed (hname : nameNode? h.signature = none) :
    Refused bytes h (.unnamed h.kind (h.line bytes))
  | untyped {name : Node} (hname : nameNode? h.signature = some name)
    (htype : returnType? h.signature name = none) :
    Refused bytes h (.untyped h.kind (name.text bytes) (h.line bytes))

/-- The head at position `p` is reported and refused, and all that are reported before it have a
name and a return type. -/
structure RefusedFirst (u : SourceUnit) (p : List Nat) (h : Head) (e : LocateError) : Prop where
  head : headAt? u.tree p = some h
  exposed : Exposed u.tree p
  refused : h.Refused u.bytes e
  shaped_before : ∀ q g, headAt? u.tree q = some g → Exposed u.tree q → q < p → g.Shaped

/-! ## One head -/

theorem Head.shaped_of_declare {h : Head} {bytes : Bytes} {offsets : Offsets} {d : Declaration}
    (hd : h.declare bytes offsets = .ok d) : h.Shaped := by
  obtain ⟨name, first, hname, ho, -⟩ := Head.declare_eq_ok.mp hd
  rw [Head.opening?, hname, Option.bind_some] at ho
  obtain ⟨type, htype, -⟩ := Option.map_eq_some_iff.mp ho
  exact ⟨name, type, hname, htype⟩

/-- The signature of a head lies in the node that it is found below. -/
theorem start_le_signature {n : Node} (hn : n.Everywhere Node.Spans) {p : List Nat} {h : Head}
    (hh : headAt? n p = some h) : n.start ≤ h.signature.start := by
  induction p generalizing n with
  | nil => cases hh
  | cons i p ih =>
    obtain ⟨hspan, hall⟩ := Node.everywhere_iff.mp hn
    cases p with
    | cons j p =>
      rw [headAt?_cons (by simp)] at hh
      obtain ⟨c, hc, hh⟩ := Option.bind_eq_some_iff.mp hh
      have hm := List.mem_of_getElem? hc
      have hin := hspan.children_within c hm
      have hbelow := ih (hall c hm) hh
      omega
    | nil =>
      obtain ⟨hnode, -, hs, -⟩ := headIn?_eq_some.mp hh
      have hm := List.mem_of_getElem? hnode
      have hin := hspan.children_within h.node hm
      rcases signature?_mem hs with he | hsig
      · rw [he]
        exact hin.1
      · have hchild := (Node.everywhere_iff.mp (hall h.node hm)).1.children_within h.signature hsig
        omega

theorem lineAt_signature {bytes : Bytes} {n : Node} (hwf : n.WellFormed bytes) {p : List Nat}
    {h : Head} (hh : headAt? n p = some h) :
    lineAt bytes h.signature.start = h.line bytes := by
  have hle := start_le_signature hwf.spans hh
  have hroot := hwf.start_nonneg
  have hpos : Node.position bytes h.signature.start = h.signature.start.toNat := by
    unfold Node.position
    rw [if_neg (by omega)]
  rw [lineAt, hpos, Head.line]

/-- In a tree over a source a head that is not declared is refused for its shape. -/
theorem refused_of_declare {bytes : Bytes} {n : Node} (hwf : n.WellFormed bytes) {p : List Nat}
    {h : Head} (hh : headAt? n p = some h) {e : LocateError}
    (he : h.declare bytes (.ofBytes bytes) = .error e) : h.Refused bytes e := by
  rcases declare_eq_error hwf hh he with ⟨hname, rfl⟩ | ⟨name, hname, htype, rfl⟩
  · rw [lineAt_signature hwf hh]
    exact .unnamed hname
  · rw [lineAt_signature hwf hh]
    exact .untyped hname htype

/-- The message of a refusal names the line. -/
theorem Head.Refused.message {bytes : Bytes} {h : Head} {e : LocateError} (he : h.Refused bytes e) :
    ∃ what after, e.message = what ++ " at line " ++ Text.ofNat (h.line bytes) ++ after := by
  cases he with
  | unnamed _ =>
    refine ⟨"Unnamed " ++ h.kind.text ++ " declaration", [], ?_⟩
    have hsplit : Text.ofString " declaration at line " =
      Text.ofString " declaration" ++ Text.ofString " at line " := rfl
    rw [LocateError.message, hsplit]
    simp only [List.append_assoc, List.append_nil]
  | @untyped name _ _ =>
    refine ⟨"The " ++ h.kind.text ++ " '" ++ name.text bytes ++ "'",
      " has no return type; add one so its comment can be placed", ?_⟩
    have hsplit : Text.ofString "' at line " = Text.ofString "'" ++ Text.ofString " at line " := rfl
    rw [LocateError.message, hsplit]
    simp only [List.append_assoc]

/-! ## The first head that is refused -/

/-- What is reported before a place in the list of heads stands in the part before it. -/
theorem mem_before_of_lt {n : Node} {before after : List (List Nat × Head)} {p q : List Nat}
    {h g : Head} (he : heads n = before ++ (p, h) :: after) (hg : (q, g) ∈ heads n) (hlt : q < p) :
    (q, g) ∈ before := by
  have hsorted := heads_pairwise n
  rw [he] at hsorted hg
  obtain ⟨-, hrest, -⟩ := List.pairwise_append.mp hsorted
  rcases List.mem_append.mp hg with hm | hm
  · exact hm
  · rcases List.mem_cons.mp hm with heq | hm
    · cases heq
      exact absurd hlt (List.lt_irrefl p)
    · have hgt := (List.pairwise_cons.mp hrest).1 (q, g) hm
      exact absurd hgt (List.lt_asymm hlt)

theorem refusedFirst_of_declarations {u : SourceUnit} (hwf : u.tree.WellFormed u.bytes)
    (hfault : u.tree.hasFault = false) {e : LocateError} (he : u.declarations = .error e) :
    ∃ p h, RefusedFirst u p h e := by
  rw [SourceUnit.declarations, hfault, if_neg (by simp), below_eq_mapM] at he
  obtain ⟨before, ⟨p, h⟩, after, hsplit, hbefore, hdeclare⟩ := mapM_eq_error.mp he
  have hmem : (p, h) ∈ heads u.tree := by
    rw [hsplit]
    simp
  obtain ⟨hh, hexposed⟩ := mem_heads.mp hmem
  refine ⟨p, h, hh, hexposed, refused_of_declare hwf hh hdeclare, fun q g hg hq hlt => ?_⟩
  obtain ⟨d, hd⟩ := hbefore _ (mem_before_of_lt hsplit (mem_heads.mpr ⟨hg, hq⟩) hlt)
  exact Head.shaped_of_declare hd

theorem shaped_of_declarations {u : SourceUnit} {ds : List Declaration}
    (hds : u.declarations = .ok ds) {p : List Nat} {h : Head} (hh : headAt? u.tree p = some h)
    (hp : Exposed u.tree p) : h.Shaped := by
  obtain ⟨-, hall⟩ := declarations_eq_ok.mp hds
  obtain ⟨hlen, hget⟩ := List.forall₂_iff_get.mp hall
  obtain ⟨⟨i, hi⟩, hx⟩ := List.get_of_mem (mem_heads.mpr ⟨hh, hp⟩)
  have hd := hget i hi (by omega)
  rw [hx] at hd
  exact Head.shaped_of_declare hd

/-- In a tree over a source, without faults, either all that is located lies in the source and can
be commented, or the first head without a name or a type is refused with its line. -/
theorem declarations_inside_or_refused (u : SourceUnit)
    (hsource : u.source = Utf8.decodeEscaped u.bytes) (hwf : u.tree.WellFormed u.bytes)
    (hfault : u.tree.hasFault = false) :
    (∃ ds, u.declarations = .ok ds ∧
      (∀ p h, headAt? u.tree p = some h → Exposed u.tree p → h.Shaped) ∧
      (∀ d ∈ ds, d.range.start ≤ d.range.stop ∧ d.range.stop ≤ u.source.length) ∧
      ∀ ending comments e, (insertComments u.source ds ending comments).1 = .error e →
        .error e ∈ comments ∨ ∃ d ∈ ds, e = .noComment d.name) ∨
    ∃ p h e, u.declarations = .error e ∧ RefusedFirst u p h e ∧
      ∃ what after, e.message = what ++ " at line " ++ Text.ofNat (h.line u.bytes) ++ after := by
  cases hds : u.declarations with
  | ok ds =>
    have hin := stop_le_length hwf hds
    rw [← hsource] at hin
    refine .inl ⟨ds, rfl, fun p h hh hp => shaped_of_declarations hds hh hp,
      fun d hd => ⟨d.range.start_le_stop, hin d hd⟩, fun ending comments e he => ?_⟩
    exact Insertion.insertComments_error_of_inside hin he
  | error e =>
    obtain ⟨p, h, hfirst⟩ := refusedFirst_of_declarations hwf hfault hds
    exact .inr ⟨p, h, e, rfl, hfirst, hfirst.refused.message⟩

/-- A signature of three bytes: a name of one, and two parentheses. -/
def untypedSignature (start : Int) : Node :=
  .mk { kind := .functionSignature, start, stop := start + 3 }
    [.mk { kind := .identifier, start, stop := start + 1, holdsName := true } [],
      leaf .parameters (start + 1) (start + 3)]

/-- `int f();`, a line feed, and `g();`, which has no type. -/
def untypedUnit : SourceUnit :=
  let bytes := [105, 110, 116, 32, 102, 40, 41, 59, 10, 103, 40, 41, 59]
  { path := none
    source := Utf8.decodeEscaped bytes
    bytes
    tree := .mk { kind := .other [], start := 0, stop := 13 }
      [shortSignature 0, leaf .semicolon 7 8, untypedSignature 9, leaf .semicolon 12 13] }

theorem untypedUnit_wellFormed : untypedUnit.tree.WellFormed untypedUnit.bytes := by
  refine ⟨?_, by decide, by decide⟩
  simp [untypedUnit, leaf, shortSignature, untypedSignature, Node.everywhere_mk, Node.spans_iff,
    Node.start, Node.stop, Node.info, Node.children]

/-- The second function is refused, on line 2. -/
theorem untypedUnit_refused : untypedUnit.tree.WellFormed untypedUnit.bytes ∧
    untypedUnit.tree.hasFault = false ∧
    untypedUnit.declarations = .error (.untyped .function [.char 'g'] 2) ∧
    ∃ p h, RefusedFirst untypedUnit p h (.untyped .function [.char 'g'] 2) := by
  have hwf := untypedUnit_wellFormed
  have herror : untypedUnit.declarations = .error (.untyped .function [.char 'g'] 2) := rfl
  refine ⟨hwf, rfl, herror, ?_⟩
  rcases declarations_inside_or_refused untypedUnit rfl hwf rfl with
    ⟨ds, hds, -⟩ | ⟨p, h, e, he, hf, -⟩
  · rw [herror] at hds
    cases hds
  · rw [herror] at he
    cases he
    exact ⟨p, h, hf⟩

end Locate

end DartComments
