import DartComments.Proofs.Tree.Ranges

/-!
# Where a declaration starts

Right before a head may stand a block of attachments: metadata, comments and modifiers. Its
declaration starts with the first metadata of that block. When the block has none, it starts with
the first metadata among the metadata and comments that come first in the head itself; and without
those too, with the return type.

In a tree over a source all these metadata end before the return type starts, and what ended an
earlier declaration among the siblings ends before them.
-/

namespace DartComments

theorem NodeKind.isComment_of_isMetadata {k : NodeKind} (h : k.isMetadata = true) :
    k.isComment = false := by
  cases k <;> first | rfl | cases h

namespace Locate

/-- The siblings around the head at position `p`: those `earlier`, the longest `block` of
attachments right before it, and those `later`. -/
structure Stands (n : Node) (p : List Nat) (h : Head) (earlier block later : List Node) : Prop where
  siblings : ∃ q m, n.at? q = some m ∧ p = q ++ [(earlier ++ block).length] ∧
    m.children = earlier ++ block ++ h.node :: later
  attached : ∀ c ∈ block, c.kind.isAttachment = true
  longest : ∀ c, earlier.getLast? = some c → c.kind.isAttachment = false

/-- What metadata at the front of a node may stand among: metadata and comments. -/
def isFront (c : Node) : Bool := c.kind.isMetadata || c.kind.isComment

/-- Metadata of a head: in the block before it, or among the metadata and comments that come first
of its children. -/
inductive Belongs (block children : List Node) (c : Node) : Prop where
  | before (hc : c ∈ block) (hmeta : c.kind.isMetadata = true) : Belongs block children c
  | inside {front rest : List Node} (hchildren : children = front ++ c :: rest)
    (hfront : ∀ x ∈ front, isFront x = true) (hmeta : c.kind.isMetadata = true) :
    Belongs block children c

/-- The node that the declaration of a head starts with. -/
inductive StartsWith (block children : List Node) (type : Node) : Node → Prop where
  | before {skipped more : List Node} {c : Node} (hblock : block = skipped ++ c :: more)
    (hskipped : ∀ x ∈ skipped, x.kind.isMetadata = false) (hmeta : c.kind.isMetadata = true) :
    StartsWith block children type c
  | inside {comments rest : List Node} {c : Node} (hblock : ∀ x ∈ block, x.kind.isMetadata = false)
    (hchildren : children = comments ++ c :: rest)
    (hcomments : ∀ x ∈ comments, x.kind.isComment = true) (hmeta : c.kind.isMetadata = true) :
    StartsWith block children type c
  | type (hnone : ∀ c, ¬ Belongs block children c) : StartsWith block children type type

/-- The return type of a signature: its first named child that is no attachment. Up to it all start
before the name of the signature, and the word `operator` is not among them. -/
structure TypeOf (s name type : Node) : Prop where
  child : ∃ skipped rest, s.children = skipped ++ type :: rest ∧
    (∀ x ∈ skipped, x.info.named = true → x.kind.isAttachment = true) ∧
    ∀ x ∈ skipped ++ [type], x.start < name.start ∧ x.kind ≠ .operator
  named : type.info.named = true
  unattached : type.kind.isAttachment = false

/-- The attachments right before a head, in document order. -/
def Head.block (h : Head) : List Node := (h.before.takeWhile (·.kind.isAttachment)).reverse

/-- Where declaration `d` of a head is placed: it starts with node `first`, which starts no later
than the return type, and earlier when some metadata of the head are not empty, and no earlier than
the end of what ended a declaration before it. -/
structure Placed (u : SourceUnit) (p : List Nat) (h : Head) (d : Declaration)
    (earlier block later : List Node) (type first : Node) : Prop where
  head : headAt? u.tree p = some h
  stands : Stands u.tree p h earlier block later
  typed : ∃ name, nameNode? h.signature = some name ∧ TypeOf h.signature name type
  begins : StartsWith block h.node.children type first
  start : (Offsets.ofBytes u.bytes).convert first.start = .ok (d.range.start : Int)
  start_le_type : first.start ≤ type.start
  start_lt_type : ∀ c, Belongs block h.node.children c → c.start < c.stop → first.start < type.start
  stop_le_start : ∀ c ∈ earlier ++ block, c.kind = .semicolon ∨ c.kind = .functionBody →
    c.stop ≤ first.start

/-! ## What the scans find -/

theorem exists_stands {n : Node} {p : List Nat} {h : Head} (hh : headAt? n p = some h) :
    ∃ earlier later, Stands n p h earlier h.block later := by
  rcases List.eq_nil_or_concat p with rfl | ⟨q, i, rfl⟩
  · cases hh
  rw [List.concat_eq_append] at hh ⊢
  obtain ⟨m, hm, hi, -⟩ := headAt?_append hh
  obtain ⟨hnode, hbefore, -, -⟩ := headIn?_eq_some.mp hi
  obtain ⟨hlt, hnode⟩ := List.getElem?_eq_some_iff.mp hnode
  have hsplit : (h.before.dropWhile (·.kind.isAttachment)).reverse ++ h.block =
      m.children.take i := by
    rw [Head.block, ← List.reverse_append, List.takeWhile_append_dropWhile, hbefore,
      List.reverse_reverse]
  refine ⟨(h.before.dropWhile (·.kind.isAttachment)).reverse, m.children.drop (i + 1),
    ⟨q, m, hm, ?_, ?_⟩, fun c hc => ?_, fun c hc => ?_⟩
  · rw [hsplit, List.length_take, Nat.min_eq_left (Nat.le_of_lt hlt)]
  · rw [hsplit, ← hnode, ← List.drop_eq_getElem_cons hlt, List.take_append_drop]
  · exact List.mem_takeWhile_imp (p := fun c : Node => c.kind.isAttachment) (List.mem_reverse.mp hc)
  · rw [List.getLast?_reverse] at hc
    have hstop := List.head?_dropWhile_not (fun c : Node => c.kind.isAttachment) h.before
    rw [hc] at hstop
    exact hstop

theorem leadingMetadata?_eq (h : Head) : leadingMetadata? h.before h.node =
    (h.block.find? (·.kind.isMetadata)).or
      ((h.node.children.takeWhile isFront).find? (·.kind.isMetadata)) := by
  rw [leadingMetadata?, List.getLast?_filter]
  rfl

/-- What is found before a list of nodes fails `p` for the first time. -/
theorem split_of_find?_takeWhile {p q : Node → Bool} {l : List Node} {c : Node}
    (h : (l.takeWhile p).find? q = some c) : ∃ skipped rest, l = skipped ++ c :: rest ∧
      q c = true ∧ (∀ x ∈ skipped, q x = false) ∧ ∀ x ∈ skipped ++ [c], p x = true := by
  obtain ⟨hc, skipped, more, hsplit, hskipped⟩ := List.find?_eq_some_iff_append.mp h
  refine ⟨skipped, more ++ l.dropWhile p, ?_, hc, fun x hx => by simpa using hskipped x hx,
    fun x hx => List.mem_takeWhile_imp (l := l) ?_⟩
  · rw [← List.cons_append, ← List.append_assoc, ← hsplit, List.takeWhile_append_dropWhile]
  · rw [hsplit, List.append_cons]
    exact List.mem_append_left _ hx

/-- Metadata in the front of a node are found by the scan for them. -/
theorem mem_takeWhile_of_inside {children front rest : List Node} {c : Node}
    (hchildren : children = front ++ c :: rest) (hfront : ∀ x ∈ front, isFront x = true)
    (hmeta : c.kind.isMetadata = true) : c ∈ children.takeWhile isFront := by
  have hc : isFront c = true := by simp [isFront, hmeta]
  rw [hchildren, List.takeWhile_append_of_pos hfront, List.takeWhile_cons_of_pos hc]
  simp

theorem typeOf_of_returnType? {s name type : Node} (h : returnType? s name = some type) :
    TypeOf s name type := by
  obtain ⟨skipped, rest, hchildren, htype, hskipped, hbefore⟩ := split_of_find?_takeWhile h
  rw [Bool.and_eq_true, Bool.not_eq_true'] at htype
  refine ⟨⟨skipped, rest, hchildren, fun x hx hnamed => ?_, fun x hx => ?_⟩, htype.1, htype.2⟩
  · simpa [hnamed] using hskipped x hx
  · simpa using hbefore x hx

theorem startsWith_of_opening? {h : Head} {first : Node} (ho : h.opening? = some first) :
    ∃ name type, nameNode? h.signature = some name ∧ TypeOf h.signature name type ∧
      StartsWith h.block h.node.children type first := by
  obtain ⟨type, htype, hfirst⟩ := Option.map_eq_some_iff.mp ho
  obtain ⟨name, hname, htype⟩ := Option.bind_eq_some_iff.mp htype
  refine ⟨name, type, hname, typeOf_of_returnType? htype, ?_⟩
  rw [leadingMetadata?_eq] at hfirst
  cases hblock : h.block.find? (·.kind.isMetadata) with
  | some c =>
    rw [hblock] at hfirst
    obtain rfl : c = first := hfirst
    obtain ⟨hmeta, skipped, more, hsplit, hskipped⟩ := List.find?_eq_some_iff_append.mp hblock
    exact .before hsplit (fun x hx => by simpa using hskipped x hx) hmeta
  | none =>
    have hnone : ∀ x ∈ h.block, x.kind.isMetadata = false := by
      simpa using List.find?_eq_none.mp hblock
    rw [hblock, Option.none_or] at hfirst
    cases hfront : (h.node.children.takeWhile isFront).find? (·.kind.isMetadata) with
    | some c =>
      rw [hfront] at hfirst
      obtain rfl : c = first := hfirst
      obtain ⟨comments, rest, hchildren, hmeta, hcomments, hin⟩ := split_of_find?_takeWhile hfront
      refine .inside hnone hchildren (fun x hx => ?_) hmeta
      -- what is skipped in the front is no metadata, so it is a comment
      simpa [isFront, hcomments x hx] using hin x (List.mem_append_left _ hx)
    | none =>
      rw [hfront] at hfirst
      obtain rfl : type = first := hfirst
      refine .type fun c hc => ?_
      cases hc with
      | before hc hmeta =>
        rw [hnone c hc] at hmeta
        cases hmeta
      | inside hchildren hin hmeta =>
        exact List.find?_eq_none.mp hfront c (mem_takeWhile_of_inside hchildren hin hmeta) hmeta

theorem StartsWith.eq_type_or_belongs {block children : List Node} {type first : Node}
    (hf : StartsWith block children type first) : first = type ∨ Belongs block children first := by
  cases hf with
  | type _ => exact .inl rfl
  | before hblock _ hmeta => exact .inr (.before (by simp [hblock]) hmeta)
  | inside _ hchildren hcomments hmeta =>
    exact .inr (.inside hchildren (fun x hx => by simp [isFront, hcomments x hx]) hmeta)

/-! ## The order of the nodes -/

theorem Apart.stop_le_of_append {l r : List Node} (h : Apart (l ++ r)) {a b : Node} (ha : a ∈ l)
    (hb : b ∈ r) : a.stop ≤ b.start :=
  (List.pairwise_append.mp h.ordered).2.2 a ha b hb

theorem Apart.start_le_stop {siblings : List Node} (h : Apart siblings) {c : Node}
    (hc : c ∈ siblings) : c.start ≤ c.stop :=
  (Node.everywhere_iff.mp (h.spans c hc)).1.start_le_stop

theorem Apart.sublist {l siblings : List Node} (h : Apart siblings) (hl : l.Sublist siblings) :
    Apart l :=
  ⟨fun c hc => h.spans c (hl.subset hc), h.ordered.sublist hl⟩

/-- Of two siblings the one that is not among those before the other starts no earlier. -/
theorem Apart.start_le_of_not_mem {l r : List Node} {a b : Node} (h : Apart (l ++ a :: r))
    (hb : b ∈ l ++ a :: r) (hno : b ∉ l) : a.start ≤ b.start := by
  rcases List.mem_cons.mp ((List.mem_append.mp hb).resolve_left hno) with rfl | hb
  · exact Int.le_refl _
  · have hapart := List.rel_of_pairwise_cons (List.pairwise_append.mp h.ordered).2.1 hb
    have := h.start_le_stop (show a ∈ l ++ a :: r by simp)
    omega

theorem signature?_self_or_isFront {n s : Node} {kind : DeclarationKind}
    (h : signature? n = some (kind, s)) : s = n ∨ s ∈ n.children ∧ isFront s = false := by
  rw [signature?] at h
  split at h
  · cases h
    exact .inl rfl
  · split at h
    · obtain ⟨s', hs, he⟩ := Option.map_eq_some_iff.mp h
      cases he
      refine .inr ⟨List.mem_of_find?_eq_some hs, ?_⟩
      have hkind := List.find?_some hs
      rw [isFront]
      generalize s.kind = k at hkind
      cases k <;> first | rfl | cases hkind
    · cases h

theorem TypeOf.mem {s name type : Node} (h : TypeOf s name type) : type ∈ s.children := by
  obtain ⟨skipped, rest, hchildren, -⟩ := h.child
  simp [hchildren]

/-- The child of a head that the return type is, or is in, is no metadata and no comment. -/
theorem TypeOf.exists_child {h : Head} {name type : Node} (ht : TypeOf h.signature name type)
    (hsignature : signature? h.node = some (h.kind, h.signature))
    (hspans : h.node.Everywhere Node.Spans) :
    ∃ x ∈ h.node.children, isFront x = false ∧ x.start ≤ type.start := by
  rcases signature?_self_or_isFront hsignature with heq | ⟨hin, hfront⟩
  · have hkind := ht.unattached
    refine ⟨type, heq ▸ ht.mem, ?_, Int.le_refl _⟩
    simp only [NodeKind.isAttachment, Bool.or_eq_false_iff] at hkind
    simp [isFront, hkind]
  · have hspan := (Node.everywhere_iff.mp ((Node.everywhere_iff.mp hspans).2 _ hin)).1
    exact ⟨h.signature, hin, hfront, (hspan.children_within type ht.mem).1⟩

section

variable {n : Node} {p : List Nat} {h : Head} {earlier block later : List Node}
  (hs : Stands n p h earlier block later) (hn : n.Everywhere Node.Spans)

include hs hn

theorem Stands.apart : Apart (earlier ++ block ++ h.node :: later) := by
  obtain ⟨q, m, hm, -, hsiblings⟩ := hs.siblings
  rw [← hsiblings]
  exact apart_children (hn.at? hm)

theorem Stands.spans : h.node.Everywhere Node.Spans :=
  (hs.apart hn).spans h.node (by simp)

theorem Stands.stop_le_node {c : Node} (hc : c ∈ earlier ++ block) : c.stop ≤ h.node.start :=
  (hs.apart hn).stop_le_of_append hc (by simp)

theorem Stands.apart_block : Apart block :=
  (hs.apart hn).sublist
    ((List.sublist_append_right earlier block).trans (List.sublist_append_left _ _))

theorem Stands.start_le_stop_of_belongs {c : Node} (hc : Belongs block h.node.children c) :
    c.start ≤ c.stop := by
  cases hc with
  | before hc _ => exact (hs.apart_block hn).start_le_stop hc
  | inside hsplit _ _ => exact (apart_children (hs.spans hn)).start_le_stop (by simp [hsplit])

variable {type : Node}

/-- A declaration starts no later than any metadata of its head. -/
theorem Stands.start_le_of_belongs {first c : Node}
    (hf : StartsWith block h.node.children type first) (hc : Belongs block h.node.children c) :
    first.start ≤ c.start := by
  have hspans := hs.spans hn
  cases hf with
  | type hnone => exact absurd hc (hnone c)
  | before hblock hskipped hmeta =>
    have hfirst : first ∈ block := by simp [hblock]
    cases hc with
    | before hc hc' =>
      have hapart := hs.apart_block hn
      rw [hblock] at hapart hc
      refine hapart.start_le_of_not_mem hc fun hin => ?_
      rw [hskipped c hin] at hc'
      cases hc'
    | inside hsplit _ _ =>
      have hmem : c ∈ h.node.children := by simp [hsplit]
      have := ((Node.everywhere_iff.mp hspans).1.children_within c hmem).1
      have := hs.stop_le_node hn (List.mem_append_right earlier hfirst)
      have := (hs.apart_block hn).start_le_stop hfirst
      omega
  | inside hnone hsplit hcomments hmeta =>
    cases hc with
    | before hc hc' =>
      rw [hnone c hc] at hc'
      cases hc'
    | inside hsplit' _ hc' =>
      have hmem : c ∈ h.node.children := by simp [hsplit']
      have hapart := apart_children hspans
      rw [hsplit] at hapart hmem
      refine hapart.start_le_of_not_mem hmem fun hin => ?_
      have hcomment := hcomments c hin
      rw [NodeKind.isComment_of_isMetadata hc'] at hcomment
      cases hcomment

/-- What ended a declaration before a head ends before its declaration starts. -/
theorem Stands.stop_le_start {first c : Node} (hf : StartsWith block h.node.children type first)
    (htype : h.node.start ≤ type.start) (hc : c ∈ earlier ++ block)
    (hkind : c.kind = .semicolon ∨ c.kind = .functionBody) : c.stop ≤ first.start := by
  have hnode := hs.stop_le_node hn hc
  cases hf with
  | type hnone => omega
  | before hblock hskipped hmeta =>
    have hfirst : first ∈ block := by simp [hblock]
    -- all in the block are attachments, so this one comes before it
    rcases List.mem_append.mp hc with hc | hc
    · have hapart := hs.apart hn
      rw [List.append_assoc] at hapart
      exact hapart.stop_le_of_append hc (List.mem_append_left _ hfirst)
    · have hattached := hs.attached c hc
      rcases hkind with hkind | hkind <;> rw [hkind] at hattached <;> cases hattached
  | inside hnone hsplit hcomments hmeta =>
    have hmem : first ∈ h.node.children := by simp [hsplit]
    have := ((Node.everywhere_iff.mp (hs.spans hn)).1.children_within first hmem).1
    omega

variable {name : Node} (hsignature : signature? h.node = some (h.kind, h.signature))
  (htype : TypeOf h.signature name type)

include hsignature htype

theorem Stands.node_le_type : h.node.start ≤ type.start :=
  (start_le_of_mem_children (hs.spans hn) (signature?_mem hsignature) htype.mem).1

/-- The metadata of a head end before its return type starts. -/
theorem Stands.stop_le_type {c : Node} (hc : Belongs block h.node.children c) :
    c.stop ≤ type.start := by
  cases hc with
  | before hc _ =>
    have := hs.stop_le_node hn (List.mem_append_right earlier hc)
    have := hs.node_le_type hn hsignature htype
    omega
  | @inside front _ hsplit hfront hmeta =>
    obtain ⟨x, hx, hno, hle⟩ := htype.exists_child hsignature (hs.spans hn)
    have hapart := apart_children (hs.spans hn)
    rw [hsplit, List.append_cons] at hapart hx
    rcases List.mem_append.mp hx with hin | hx
    · have hc : isFront c = true := by simp [isFront, hmeta]
      rw [List.forall_mem_append.mpr ⟨hfront, List.forall_mem_singleton.mpr hc⟩ x hin] at hno
      cases hno
    · have := hapart.stop_le_of_append (List.mem_append_right front (List.mem_singleton_self c)) hx
      omega

theorem Stands.start_le_type {first : Node} (hf : StartsWith block h.node.children type first) :
    first.start ≤ type.start := by
  rcases hf.eq_type_or_belongs with rfl | hc
  · exact Int.le_refl _
  · have := hs.start_le_stop_of_belongs hn hc
    have := hs.stop_le_type hn hsignature htype hc
    omega

end

/-- Every declaration that is located in a tree over a source starts with the first metadata right
before its head, or else with the first that come first in it, or else with its return type. -/
theorem declarations_start_with_metadata_or_type (u : SourceUnit) (ds : List Declaration)
    (hwf : u.tree.WellFormed u.bytes) (hds : u.declarations = .ok ds) :
    List.Forall₂ (fun x d => ∃ earlier block later type first,
      Placed u x.1 x.2 d earlier block later type first) (heads u.tree) ds := by
  obtain ⟨-, hall⟩ := declarations_eq_ok.mp hds
  refine List.forall₂_iff_get.mpr ⟨hall.length_eq, fun i hi hi' => ?_⟩
  obtain ⟨-, first, -, ho, -, -, hstart, -⟩ :=
    Head.declare_eq_ok.mp ((List.forall₂_iff_get.mp hall).2 i hi hi')
  have hh := (mem_heads.mp (List.get_mem (heads u.tree) ⟨i, hi⟩)).1
  have hsignature := signature?_of_headAt? hh
  obtain ⟨earlier, later, hs⟩ := exists_stands hh
  obtain ⟨name, type, hname, htype, hf⟩ := startsWith_of_opening? ho
  have hn := hwf.spans
  refine ⟨earlier, _, later, type, first, hh, hs, ⟨name, hname, htype⟩, hf, hstart,
    hs.start_le_type hn hsignature htype hf, fun c hc hne => ?_, fun c hc hkind => ?_⟩
  · have := hs.start_le_of_belongs hn hf hc
    have := hs.stop_le_type hn hsignature htype hc
    omega
  · exact hs.stop_le_start hn hf (hs.node_le_type hn hsignature htype) hc hkind

/-- `int g();@A/**/external int f();`: the metadata of `f` are followed by a comment and a
modifier. -/
def annotatedUnit : SourceUnit :=
  let bytes := [105, 110, 116, 32, 103, 40, 41, 59, 64, 65, 47, 42, 42, 47, 101, 120, 116, 101, 114,
    110, 97, 108, 32, 105, 110, 116, 32, 102, 40, 41, 59]
  { path := none
    source := Utf8.decodeEscaped bytes
    bytes
    tree := .mk { kind := .other [], start := 0, stop := 31 }
      [shortSignature 0, leaf .semicolon 7 8, leaf .metadata 8 10, leaf .comment 10 14,
        leaf .external 14 22, shortSignature 23, leaf .semicolon 30 31] }

/-- The second function starts with its metadata, right after the end of the first. -/
theorem annotatedUnit_start_with_metadata_or_type :
    annotatedUnit.tree.WellFormed annotatedUnit.bytes ∧
    ∃ g f, annotatedUnit.declarations = .ok [g, f] ∧ g.range.start = 0 ∧ f.range.start = 8 ∧
      List.Forall₂ (fun x d => ∃ earlier block later type first,
        Placed annotatedUnit x.1 x.2 d earlier block later type first)
        (heads annotatedUnit.tree) [g, f] := by
  have hwf : annotatedUnit.tree.WellFormed annotatedUnit.bytes := by
    refine ⟨?_, by decide, by decide⟩
    simp [annotatedUnit, leaf, shortSignature, Node.everywhere_mk, Node.spans_iff, Node.start,
      Node.stop, Node.info, Node.children]
  have hds : annotatedUnit.declarations =
      .ok [⟨[.char 'g'], .function, 0, 8, by decide⟩, ⟨[.char 'f'], .function, 8, 31, by decide⟩] :=
    rfl
  exact ⟨hwf, _, _, hds, rfl, rfl, declarations_start_with_metadata_or_type annotatedUnit _ hwf hds⟩

end Locate

end DartComments
