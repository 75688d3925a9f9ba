import DartComments.Proofs.Source.Declaration
import DartComments.Proofs.Source.Offsets
import DartComments.Proofs.Tree.Heads
import Mathlib.Data.List.TakeWhile

/-!
# The order of located declarations

In a well-formed tree children lie in their parent, one after the other. The walk then meets the
heads from left to right, and each head comes after the end of all that were reported before it. But
a declaration starts at its first leading metadata, which the walk has been through already. The
`lead` of a head is what stands from there up to it.

    for `x` before `y` in heads n:  x is found inside the lead of y, or x ends before y starts

So the declarations are in order and do not overlap exactly when none of them is found in the lead
of another one and ends after that lead starts (`declarations_ordered_iff`).
-/

namespace DartComments

/-! ## Well-formed trees -/

namespace Node

/-- Every node of the tree, the top one included, is a `P`. -/
def Everywhere (P : Node → Prop) (n : Node) : Prop := ∀ p m, n.at? p = some m → P m

theorem everywhere_iff {P : Node → Prop} {n : Node} :
    n.Everywhere P ↔ P n ∧ ∀ c ∈ n.children, c.Everywhere P := by
  constructor
  · intro h
    refine ⟨h [] n rfl, fun c hc p m hm => ?_⟩
    obtain ⟨i, hi⟩ := List.mem_iff_getElem?.mp hc
    refine h (i :: p) m ?_
    rw [at?, hi]
    exact hm
  · rintro ⟨hn, hc⟩ p m hm
    cases p with
    | nil =>
      cases hm
      exact hn
    | cons i p =>
      rw [at?] at hm
      obtain ⟨c, hi, hm⟩ := Option.bind_eq_some_iff.mp hm
      exact hc c (List.mem_of_getElem? hi) p m hm

theorem everywhere_mk {P : Node → Prop} {info : NodeInfo} {children : List Node} :
    (Node.mk info children).Everywhere P ↔
      P (.mk info children) ∧ ∀ c ∈ children, c.Everywhere P :=
  everywhere_iff

/-- A node spans its children, which stand in order and apart. -/
@[mk_iff]
structure Spans (n : Node) : Prop where
  start_le_stop : n.start ≤ n.stop
  children_within : ∀ c ∈ n.children, n.start ≤ c.start ∧ c.stop ≤ n.stop
  children_apart : n.children.Pairwise fun a b => a.stop ≤ b.start

/-- A tree over a source: every node spans its children, and the top one lies in the source. -/
structure WellFormed (bytes : Bytes) (n : Node) : Prop where
  spans : n.Everywhere Spans
  start_nonneg : 0 ≤ n.start
  stop_le : n.stop ≤ bytes.length

end Node

namespace Locate

/-! ## Leads -/

/-- The siblings from the first leading metadata of a head up to the head, in document order. -/
def Head.lead (h : Head) : List Node :=
  (h.before.takeWhile (·.kind.isAttachment)).reverse.dropWhile (! ·.kind.isMetadata)

/-- The lead is the end of what stands before a head. -/
theorem Head.exists_append_lead (h : Head) : ∃ earlier, h.before.reverse = earlier ++ h.lead := by
  have hsplit : h.before.reverse = (h.before.dropWhile (·.kind.isAttachment)).reverse ++
      (h.before.takeWhile (·.kind.isAttachment)).reverse := by
    rw [← List.reverse_append, List.takeWhile_append_dropWhile]
  refine ⟨(h.before.dropWhile (·.kind.isAttachment)).reverse ++
    (h.before.takeWhile (·.kind.isAttachment)).reverse.takeWhile (! ·.kind.isMetadata), ?_⟩
  rw [hsplit, List.append_assoc, Head.lead, List.takeWhile_append_dropWhile]

theorem Head.isAttachment_of_mem_lead {h : Head} {c : Node} (hc : c ∈ h.lead) :
    c.kind.isAttachment = true := by
  have hm := (List.dropWhile_sublist _).subset hc
  exact List.mem_takeWhile_imp (p := fun c : Node => c.kind.isAttachment) (List.mem_reverse.mp hm)

/-- What ends a declaration is in no lead. -/
theorem Head.not_mem_lead {h : Head} {c : Node}
    (hk : c.kind = .semicolon ∨ c.kind = .functionBody) : c ∉ h.lead := by
  intro hc
  have := Head.isAttachment_of_mem_lead hc
  rcases hk with hk | hk <;> rw [hk] at this <;> cases this

/-- The leading metadata are the first node of the lead, or a child of the head when there is no
lead. -/
theorem leadingMetadata?_cases (h : Head) :
    leadingMetadata? h.before h.node = h.lead.head? ∨
      (h.lead = [] ∧ ∀ c, leadingMetadata? h.before h.node = some c → c ∈ h.node.children) := by
  have hlead : ((h.before.takeWhile (·.kind.isAttachment)).filter (·.kind.isMetadata)).getLast? =
      h.lead.head? := by
    rw [List.getLast?_filter, List.find?_eq_head?_dropWhile_not, Head.lead]
  rw [leadingMetadata?, hlead]
  cases hl : h.lead with
  | cons c cs => exact .inl rfl
  | nil =>
    refine .inr ⟨rfl, fun c hc => ?_⟩
    have hm := List.mem_of_find?_eq_some (Option.or_eq_some_iff.mp hc |>.resolve_left (by simp)).2
    exact (List.takeWhile_sublist _).subset hm

theorem mem_of_returnType? {s name type : Node} (h : returnType? s name = some type) :
    type ∈ s.children :=
  (List.takeWhile_sublist _).subset (List.mem_of_find?_eq_some h)

/-- A signature is the node that was matched, or a child of it. -/
theorem signature?_mem {n s : Node} {kind : DeclarationKind} (h : signature? n = some (kind, s)) :
    s = n ∨ s ∈ n.children := by
  rw [signature?] at h
  split at h
  · cases h
    exact .inl rfl
  · split at h
    · obtain ⟨s', hs, he⟩ := Option.map_eq_some_iff.mp h
      cases he
      exact .inr (List.mem_of_find?_eq_some hs)
    · cases h

/-- A declaration starts with the first node of its lead, or inside its head. -/
theorem Head.opening?_cases {h : Head} {first : Node} (ho : h.opening? = some first)
    (hs : signature? h.node = some (h.kind, h.signature)) :
    h.lead.head? = some first ∨ (h.lead = [] ∧
      ∃ m, (m = h.node ∨ m ∈ h.node.children) ∧ first ∈ m.children) := by
  rw [Head.opening?] at ho
  obtain ⟨type, ht, rfl⟩ := Option.map_eq_some_iff.mp ho
  obtain ⟨name, -, ht⟩ := Option.bind_eq_some_iff.mp ht
  rcases leadingMetadata?_cases h with he | ⟨hl, hin⟩
  · rw [he]
    cases hl : h.lead with
    | cons c cs => exact .inl rfl
    | nil => exact .inr ⟨rfl, h.signature, signature?_mem hs, mem_of_returnType? ht⟩
  · refine .inr ⟨hl, ?_⟩
    cases hm : leadingMetadata? h.before h.node with
    | some c => exact ⟨h.node, .inl rfl, hin c hm⟩
    | none => exact ⟨h.signature, signature?_mem hs, mem_of_returnType? ht⟩

/-! ## Heads among siblings that stand apart -/

/-- Siblings of a well-formed tree. -/
structure Apart (siblings : List Node) : Prop where
  spans : ∀ c ∈ siblings, c.Everywhere Node.Spans
  ordered : siblings.Pairwise fun a b => a.stop ≤ b.start

theorem apart_children {n : Node} (h : n.Everywhere Node.Spans) : Apart n.children :=
  ⟨(Node.everywhere_iff.mp h).2, (Node.everywhere_iff.mp h).1.children_apart⟩

theorem Apart.stop_le_start {siblings : List Node} (h : Apart siblings) {i j : Nat} {a b : Node}
    (hi : siblings[i]? = some a) (hj : siblings[j]? = some b) (hlt : i < j) : a.stop ≤ b.start := by
  obtain ⟨hi', rfl⟩ := List.getElem?_eq_some_iff.mp hi
  obtain ⟨hj', rfl⟩ := List.getElem?_eq_some_iff.mp hj
  exact List.pairwise_iff_getElem.mp h.ordered i j hi' hj' hlt

theorem Apart.spans_of_getElem? {siblings : List Node} (h : Apart siblings) {i : Nat} {c : Node}
    (hi : siblings[i]? = some c) : c.Everywhere Node.Spans :=
  h.spans c (List.mem_of_getElem? hi)

/-- What lies two levels below a node lies in the node. -/
theorem start_le_of_mem_children {n m c : Node} (h : n.Everywhere Node.Spans)
    (hm : m = n ∨ m ∈ n.children) (hc : c ∈ m.children) :
    n.start ≤ c.start ∧ c.start ≤ c.stop ∧ c.stop ≤ n.stop := by
  obtain ⟨hn, hall⟩ := Node.everywhere_iff.mp h
  rcases hm with rfl | hm
  · obtain ⟨h1, h2⟩ := hn.children_within c hc
    exact ⟨h1, (Node.everywhere_iff.mp (hall c hc)).1.start_le_stop, h2⟩
  · obtain ⟨h1, h2⟩ := hn.children_within m hm
    obtain ⟨hm', hall'⟩ := Node.everywhere_iff.mp (hall m hm)
    obtain ⟨h3, h4⟩ := hm'.children_within c hc
    have h5 := (Node.everywhere_iff.mp (hall' c hc)).1.start_le_stop
    omega

/-- The terminator of a head is a sibling after it. -/
theorem terminator_getElem? {siblings : List Node} {i : Nat} {h : Head}
    (hh : headIn? siblings i = some h) :
    0 < h.taken ∧ siblings[i + h.taken]? = some h.terminator ∧
      (h.terminator.kind = .semicolon ∨ h.terminator.kind = .functionBody) := by
  obtain ⟨-, -, -, ht⟩ := headIn?_eq_some.mp hh
  obtain ⟨hpos, hget, hk, -⟩ := terminator?_run ht
  refine ⟨hpos, ?_, hk⟩
  rw [List.getElem?_drop] at hget
  rw [show i + h.taken = i + 1 + (h.taken - 1) by omega]
  exact hget

/-- A sibling before a head belongs to its lead, or ends before the declaration starts. -/
theorem mem_lead_or_stop_le {siblings : List Node} (ha : Apart siblings) {i k : Nat} {h : Head}
    (hh : headIn? siblings i = some h) {c first : Node} (hc : siblings[k]? = some c) (hk : k < i)
    (ho : h.opening? = some first) : c ∈ h.lead ∨ c.stop ≤ first.start := by
  obtain ⟨hn, hb, hs, -⟩ := headIn?_eq_some.mp hh
  obtain ⟨earlier, he⟩ := h.exists_append_lead
  rw [hb, List.reverse_reverse] at he
  have hm : c ∈ siblings.take i := by
    refine List.mem_of_getElem? (i := k) ?_
    rw [List.getElem?_take_of_lt hk]
    exact hc
  rcases h.opening?_cases ho hs with hl | ⟨-, m, hm', hf⟩
  · rw [he] at hm
    rcases List.mem_append.mp hm with hm | hm
    · have hp : (siblings.take i).Pairwise fun a b => a.stop ≤ b.start :=
        ha.ordered.sublist (List.take_sublist i siblings)
      rw [he, List.pairwise_append] at hp
      exact .inr (hp.2.2 c hm first (List.mem_of_mem_head? hl))
    · exact .inl hm
  · have hcn := ha.stop_le_start hc hn hk
    have hnf := start_le_of_mem_children (ha.spans_of_getElem? hn) hm' hf
    omega

/-- A node of a lead is a sibling before the head, and from there on all are attachments. -/
theorem getElem?_of_mem_lead {siblings : List Node} {i : Nat} {h : Head}
    (hh : headIn? siblings i = some h) {c : Node} (hc : c ∈ h.lead) :
    ∃ k, k < i ∧ siblings[k]? = some c ∧ ∀ l m, k ≤ l → l < i → siblings[l]? = some m →
      m.kind.isAttachment = true := by
  obtain ⟨hn, hb, -, -⟩ := headIn?_eq_some.mp hh
  obtain ⟨earlier, he⟩ := h.exists_append_lead
  rw [hb, List.reverse_reverse] at he
  have hi := (List.getElem?_eq_some_iff.mp hn).1
  have hlen : (siblings.take i).length = i := by
    rw [List.length_take]
    omega
  obtain ⟨k, hk⟩ := List.mem_iff_getElem?.mp hc
  have hklt := (List.getElem?_eq_some_iff.mp hk).1
  have hsum : earlier.length + h.lead.length = i := by
    rw [← hlen, he, List.length_append]
  refine ⟨earlier.length + k, by omega, ?_, fun l m hl hli hm => ?_⟩
  · rw [← List.getElem?_take_of_lt (by omega : earlier.length + k < i), he,
      List.getElem?_append_right (by omega), Nat.add_sub_cancel_left]
    exact hk
  · rw [← List.getElem?_take_of_lt hli, he, List.getElem?_append_right (by omega)] at hm
    exact Head.isAttachment_of_mem_lead (List.mem_of_getElem? hm)

/-- A declaration lies in the node that it is found below. -/
theorem bounds_of_headAt? {n : Node} (hn : n.Everywhere Node.Spans) {p : List Nat} {h : Head}
    (hh : headAt? n p = some h) : h.terminator.stop ≤ n.stop ∧ ∀ first, h.opening? = some first →
      n.start ≤ first.start ∧ first.start ≤ h.terminator.stop := by
  induction p generalizing n with
  | nil => cases hh
  | cons i p ih =>
    obtain ⟨hspan, hall⟩ := Node.everywhere_iff.mp hn
    cases p with
    | cons j p =>
      rw [headAt?_cons (by simp)] at hh
      obtain ⟨c, hc, hh⟩ := Option.bind_eq_some_iff.mp hh
      have hm := List.mem_of_getElem? hc
      obtain ⟨h1, h2⟩ := ih (hall c hm) hh
      obtain ⟨h4, h5⟩ := hspan.children_within c hm
      refine ⟨by omega, fun first ho => ?_⟩
      have := h2 first ho
      omega
    | nil =>
      have ha := apart_children hn
      obtain ⟨hnode, hb, hs, -⟩ := headIn?_eq_some.mp hh
      obtain ⟨hpos, hterm, -⟩ := terminator_getElem? hh
      have hend := (hspan.children_within _ (List.mem_of_getElem? hterm)).2
      have hterm' := (Node.everywhere_iff.mp (ha.spans_of_getElem? hterm)).1.start_le_stop
      have hapart := ha.stop_le_start hnode hterm (by omega)
      refine ⟨hend, fun first ho => ?_⟩
      rcases h.opening?_cases ho hs with hl | ⟨-, m, hm, hf⟩
      · obtain ⟨k, hk, hc, -⟩ := getElem?_of_mem_lead hh (List.mem_of_mem_head? hl)
        have h1 := (hspan.children_within _ (List.mem_of_getElem? hc)).1
        have h2 := (Node.everywhere_iff.mp (ha.spans_of_getElem? hc)).1.start_le_stop
        have h3 := ha.stop_le_start hc hterm (by omega)
        omega
      · have h1 := (hspan.children_within _ (List.mem_of_getElem? hnode)).1
        have h2 := start_le_of_mem_children (ha.spans_of_getElem? hnode) hm hf
        omega

/-! ## Two heads of a tree -/

/-- What a report at or below sibling `i` ends with, when another one follows at or below `j`: a
sibling before `j`, which is in a lead only when the first report is below it. -/
theorem exists_end_before {siblings : List Node} (ha : Apart siblings) {i j : Nat}
    {p q : List Nat} {g h : Head} (hg : ReportedIn siblings i p g) (hh : ReportedIn siblings j q h)
    (hlt : i < j) : ∃ k c, siblings[k]? = some c ∧ k < j ∧ g.terminator.stop ≤ c.stop ∧
      ∀ h' : Head, c ∈ h'.lead → (p, g) ∈ heads c := by
  rcases hg with ⟨-, hg⟩ | ⟨-, -, c, hc, hm⟩
  · obtain ⟨hpos, hterm, hk⟩ := terminator_getElem? hg
    refine ⟨i + g.taken, g.terminator, hterm, ?_, Int.le_refl _, fun h' hc => ?_⟩
    · by_contra hle
      rcases hh with ⟨-, hh⟩ | ⟨-, hfree, -⟩
      · rw [headIn?_eq_none_of_run hg hlt (by omega)] at hh
        cases hh
      · exact hfree ⟨i, g, hg, hlt, by omega⟩
    · exact absurd hc (Head.not_mem_lead hk)
  · refine ⟨i, c, hc, hlt, ?_, fun h' _ => hm⟩
    exact (bounds_of_headAt? (ha.spans_of_getElem? hc) (mem_heads.mp hm).1).1

/-- Of two reports the first is found in the lead of the second, or ends before it starts. -/
theorem found_in_lead_or_stop_le {n : Node} (hn : n.Everywhere Node.Spans) {p q : List Nat}
    {g h : Head} (hg : (p, g) ∈ heads n) (hh : (q, h) ∈ heads n) (hlt : p < q) {first : Node}
    (ho : h.opening? = some first) :
    (∃ m ∈ h.lead, ∃ r, (r, g) ∈ heads m) ∨ g.terminator.stop ≤ first.start := by
  induction p generalizing n q with
  | nil => exact absurd (mem_heads.mp hg).1 (by simp [headAt?])
  | cons i p ih =>
    obtain ⟨i', p', he, hrep⟩ := mem_heads_iff.mp hg
    cases he
    obtain ⟨j, q, rfl, hrep'⟩ := mem_heads_iff.mp hh
    have ha := apart_children hn
    rcases List.cons_lt_cons_iff.mp hlt with hij | ⟨rfl, hpq⟩
    · obtain ⟨k, c, hc, hk, hstop, hin⟩ := exists_end_before ha hrep hrep' hij
      rcases hrep' with ⟨-, hh⟩ | ⟨-, -, d, hd, hm⟩
      · rcases mem_lead_or_stop_le ha hh hc hk ho with hl | hle
        · exact .inl ⟨c, hl, p, hin h hl⟩
        · exact .inr (by omega)
      · have h1 := ha.stop_le_start hc hd hk
        have h2 := (bounds_of_headAt? (ha.spans_of_getElem? hd) (mem_heads.mp hm).1).2 first ho
        exact .inr (by omega)
    -- both are below the same sibling, which then is no head
    · rcases hrep' with ⟨rfl, -⟩ | ⟨hno, -, d, hd, hm⟩
      · exact absurd hpq (List.not_lt_nil p)
      · rcases hrep with ⟨-, hhead⟩ | ⟨-, -, c, hc, hm'⟩
        · rw [hno] at hhead
          cases hhead
        · rw [hd] at hc
          cases hc
          exact ih (ha.spans_of_getElem? hd) hm' hm hpq

/-- What is found in the lead of a report is reported, before it. -/
theorem exists_before_of_mem_lead {n : Node} {p r : List Nat} {g h : Head} {m : Node}
    (hh : (p, h) ∈ heads n) (hm : m ∈ h.lead) (hg : (r, g) ∈ heads m) :
    ∃ q, q < p ∧ (q, g) ∈ heads n := by
  induction p generalizing n with
  | nil => exact absurd (mem_heads.mp hh).1 (by simp [headAt?])
  | cons i p ih =>
    obtain ⟨i', p', he, hrep⟩ := mem_heads_iff.mp hh
    cases he
    rcases hrep with ⟨rfl, hhead⟩ | ⟨hno, hfree, c, hc, hbelow⟩
    · obtain ⟨k, hk, hget, hatt⟩ := getElem?_of_mem_lead hhead hm
      have hnone : headIn? n.children k = none := by
        have := Head.isAttachment_of_mem_lead hm
        rw [headIn?, hget]
        show headOf? _ m _ = none
        rw [headOf?, signature?_eq_none_of_isAttachment this]
      refine ⟨k :: r, List.cons_lt_cons_iff.mpr (.inl hk), mem_heads_iff.mpr ⟨k, r, rfl, ?_⟩⟩
      refine .inr ⟨hnone, ?_, m, hget, hg⟩
      -- a run that reaches into the lead would have its terminator there
      rintro ⟨j, f, hf, hjk, hle⟩
      obtain ⟨hpos, hterm, hkind⟩ := terminator_getElem? hf
      by_cases hi : i ≤ j + f.taken
      · rw [headIn?_eq_none_of_run hf (by omega) hi] at hhead
        cases hhead
      · have := hatt _ _ hle (by omega) hterm
        rcases hkind with hkind | hkind <;> rw [hkind] at this <;> cases this
    · obtain ⟨q, hlt, hq⟩ := ih hbelow
      exact ⟨i :: q, List.cons_lt_cons_iff.mpr (.inr ⟨rfl, hlt⟩),
        mem_heads_iff.mpr ⟨i, q, rfl, .inr ⟨hno, hfree, c, hc, hq⟩⟩⟩

/-! ## The order of declarations -/

/-- Declaration `g` is found in the lead of `h` and ends, in code points, after the lead starts. -/
def Clash (offsets : Offsets) (g h : Head) : Prop :=
  (∃ m ∈ h.lead, ∃ p, (p, g) ∈ heads m) ∧ ∃ first i j, h.lead.head? = some first ∧
    offsets.convert first.start = .ok i ∧ offsets.convert g.terminator.stop = .ok j ∧ i < j

/-- A declaration with a lead starts where its lead starts. -/
theorem Head.opening?_eq_head?_lead {h : Head} {first m : Node} (ho : h.opening? = some first)
    (hs : signature? h.node = some (h.kind, h.signature)) (hm : m ∈ h.lead) :
    h.lead.head? = some first := by
  rcases h.opening?_cases ho hs with hl | ⟨hl, -⟩
  · exact hl
  · rw [hl] at hm
    cases hm

/-- Two reports, the first not in conflict with the lead of the second, make declarations that do
not overlap. -/
theorem stop_le_start_of_not_clash {bytes : Bytes} {n : Node} (hwf : n.WellFormed bytes)
    {p q : List Nat} {g h : Head} {d e : Declaration} (hg : (p, g) ∈ heads n)
    (hh : (q, h) ∈ heads n) (hlt : p < q) (hd : g.declare bytes (.ofBytes bytes) = .ok d)
    (he : h.declare bytes (.ofBytes bytes) = .ok e) (hno : ¬ Clash (.ofBytes bytes) g h) :
    d.range.stop ≤ e.range.start := by
  obtain ⟨-, first, -, ho, -, -, -, hstop⟩ := Head.declare_eq_ok.mp hd
  obtain ⟨-, first', -, ho', -, -, hstart', -⟩ := Head.declare_eq_ok.mp he
  have hb := (bounds_of_headAt? hwf.spans (mem_heads.mp hg).1).2 first ho
  have hb' := bounds_of_headAt? hwf.spans (mem_heads.mp hh).1
  have hb'' := hb'.2 first' ho'
  have hnonneg := hwf.start_nonneg
  have hle := hwf.stop_le
  rcases found_in_lead_or_stop_le hwf.spans hg hh hlt ho' with hin | hapart
  · obtain ⟨m, hm, r, hr⟩ := hin
    have hl := h.opening?_eq_head?_lead ho' (signature?_of_headAt? (mem_heads.mp hh).1) hm
    by_contra hgt
    exact hno ⟨⟨m, hm, r, hr⟩, first', _, _, hl, hstart', hstop, by omega⟩
  · have := Offsets.convert_mono (by omega) hapart (by omega) hstop hstart'
    omega

/-- Without conflicts the declarations stand apart. -/
theorem pairwise_of_not_clash {u : SourceUnit} {ds : List Declaration}
    (hwf : u.tree.WellFormed u.bytes) (hds : u.declarations = .ok ds)
    (hno : ∀ p h g, (p, h) ∈ heads u.tree → ¬ Clash (.ofBytes u.bytes) g h) :
    ds.Pairwise fun a b => a.range.stop ≤ b.range.start := by
  obtain ⟨-, hall⟩ := declarations_eq_ok.mp hds
  obtain ⟨hlen, hget⟩ := List.forall₂_iff_get.mp hall
  have hsorted := List.pairwise_iff_getElem.mp (heads_pairwise u.tree)
  refine List.pairwise_iff_getElem.mpr ?_
  intro a b ha hb hab
  have hda := hget a (by omega) ha
  have hdb := hget b (by omega) hb
  have hmb := List.get_mem (heads u.tree) ⟨b, by omega⟩
  exact stop_le_start_of_not_clash hwf (List.get_mem _ _) hmb
    (hsorted a b (by omega) (by omega) hab) hda hdb (hno _ _ _ hmb)

/-- The located declarations are in order and apart exactly when none of them is found in the lead
of another one and ends after that lead starts. -/
theorem declarations_ordered_iff (u : SourceUnit) (ds : List Declaration)
    (hwf : u.tree.WellFormed u.bytes) (hds : u.declarations = .ok ds) :
    (Declaration.isMonotonic ds = true ∧ Declaration.hasOverlaps ds = false) ↔
      ∀ p h g, (p, h) ∈ heads u.tree → ¬ Clash (.ofBytes u.bytes) g h := by
  constructor
  · rintro ⟨-, hov⟩ p h g hh ⟨⟨m, hm, r, hr⟩, first, i, j, hl, hi, hj, hij⟩
    obtain ⟨-, hall⟩ := declarations_eq_ok.mp hds
    obtain ⟨hlen, hget⟩ := List.forall₂_iff_get.mp hall
    have hsorted := List.pairwise_iff_getElem.mp (heads_pairwise u.tree)
    have hpair := List.pairwise_iff_getElem.mp (Declaration.hasOverlaps_eq_false.mp hov)
    obtain ⟨q, hlt, hg⟩ := exists_before_of_mem_lead hh hm hr
    obtain ⟨a, ha, hea⟩ := List.getElem_of_mem hg
    obtain ⟨b, hb, heb⟩ := List.getElem_of_mem hh
    have hab : a < b := by
      rcases Nat.lt_trichotomy a b with hab | rfl | hba
      · exact hab
      · rw [hea] at heb
        cases heb
        exact absurd hlt (List.lt_irrefl _)
      · have := hsorted b a hb ha hba
        rw [hea, heb] at this
        exact absurd this (List.lt_asymm hlt)
    have hda := hget a ha (by omega)
    have hdb := hget b hb (by omega)
    rw [List.get_eq_getElem, hea] at hda
    rw [List.get_eq_getElem, heb] at hdb
    obtain ⟨-, -, -, -, -, -, -, hstop⟩ := Head.declare_eq_ok.mp hda
    obtain ⟨-, first', -, ho', -, -, hstart, -⟩ := Head.declare_eq_ok.mp hdb
    have hl' := h.opening?_eq_head?_lead ho' (signature?_of_headAt? (mem_heads.mp hh).1) hm
    rw [hl] at hl'
    cases hl'
    have hstart' : i = ds[b].range.start := Except.ok.inj (hi.symm.trans hstart)
    have hstop' : j = ds[a].range.stop := Except.ok.inj (hj.symm.trans hstop)
    have := hpair a b (by omega) (by omega) hab
    omega
  · intro hno
    have hov := Declaration.hasOverlaps_eq_false.mpr (pairwise_of_not_clash hwf hds hno)
    exact ⟨Declaration.isMonotonic_of_hasOverlaps_eq_false hov, hov⟩

/-- A node with children, of a kind that the walk does not look at. -/
def wrap (start stop : Int) (children : List Node) : Node :=
  .mk { kind := .other [], start, stop } children

/-- A body of four bytes: an arrow, a digit and a semicolon. -/
def arrowBody (start : Int) : Node :=
  .mk { kind := .functionBody, start, stop := start + 4 }
    [leaf (.other []) start (start + 2), leaf (.other []) (start + 2) (start + 3),
      leaf .semicolon (start + 3) (start + 4)]

/-- `@A((){int g()=>1;})int f()=>2;`: metadata whose argument is a closure with a local function. -/
def closureUnit : SourceUnit :=
  let bytes := [64, 65, 40, 40, 41, 123, 105, 110, 116, 32, 103, 40, 41, 61, 62, 49, 59, 125, 41,
    105, 110, 116, 32, 102, 40, 41, 61, 62, 50, 59]
  { path := none
    source := Utf8.decodeEscaped bytes
    bytes
    tree := wrap 0 30
      [.mk { kind := .metadata, start := 0, stop := 19 }
        [leaf (.other []) 0 1, leaf .identifier 1 2,
          wrap 2 19 [leaf (.other []) 2 3,
            wrap 3 18 [leaf .parameters 3 5,
              .mk { kind := .block, start := 5, stop := 18 }
                [leaf (.other []) 5 6, wrap 6 17 [shortSignature 6, arrowBody 13],
                  leaf (.other []) 17 18]],
            leaf (.other []) 18 19]],
        shortSignature 19, arrowBody 26] }

theorem closureUnit_wellFormed : closureUnit.tree.WellFormed closureUnit.bytes := by
  refine ⟨?_, by decide, by decide⟩
  simp [closureUnit, wrap, leaf, shortSignature, arrowBody, Node.everywhere_mk, Node.spans_iff,
    Node.start, Node.stop, Node.info, Node.children]

/-- The local function is found first, and the function that the metadata belong to starts before
it. -/
theorem closureUnit_not_ordered : ∃ ds, closureUnit.tree.WellFormed closureUnit.bytes ∧
    closureUnit.declarations = .ok ds ∧ Declaration.isMonotonic ds = false ∧
    Declaration.hasOverlaps ds = true :=
  ⟨[⟨[.char 'g'], .function, 6, 17, by decide⟩, ⟨[.char 'f'], .function, 0, 30, by decide⟩],
    closureUnit_wellFormed, rfl, rfl, rfl⟩

/-- So one of the two clashes with the lead of the other. -/
theorem closureUnit_clash : closureUnit.tree.WellFormed closureUnit.bytes ∧
    (∃ ds, closureUnit.declarations = .ok ds) ∧
    ∃ p h g, (p, h) ∈ heads closureUnit.tree ∧ Clash (.ofBytes closureUnit.bytes) g h := by
  refine ⟨closureUnit_wellFormed, ⟨_, rfl⟩, ?_⟩
  by_contra hno
  have hordered := (declarations_ordered_iff closureUnit _ closureUnit_wellFormed rfl).mpr
    fun p h g hh hc => hno ⟨p, h, g, hh, hc⟩
  exact absurd hordered.1 (by decide)

end Locate

end DartComments
