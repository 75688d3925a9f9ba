import DartComments.Proofs.Tree.Order

/-!
# Ranges in the source

In a tree over a source the offsets of every declaration can be converted, whether they are
boundaries of code points or not: what is located lies in the source, and locating fails only for a
fault of the tree or for a head without a name or a return type.

In a tree whose offsets are boundaries of code points, the nodes that a declaration is made of are
nodes of the tree, so its range is found exactly: locating succeeds, and each range starts and stops
at the boundaries that its head tells. When nothing is found below an attachment, the ranges stand
in order and apart.
-/

namespace DartComments

namespace Node

/-- A node starts and stops at boundaries of code points. -/
def OnBoundaries (bytes : Bytes) (n : Node) : Prop :=
  (∃ i, Utf8.IsBoundary bytes i n.start) ∧ ∃ i, Utf8.IsBoundary bytes i n.stop

theorem Everywhere.at? {P : Node → Prop} {n m : Node} {q : List Nat} (h : n.Everywhere P)
    (hm : n.at? q = some m) : m.Everywhere P := by
  induction q generalizing n with
  | nil =>
    cases hm
    exact h
  | cons i q ih =>
    rw [Node.at?] at hm
    obtain ⟨c, hc, hm⟩ := Option.bind_eq_some_iff.mp hm
    exact ih ((everywhere_iff.mp h).2 c (List.mem_of_getElem? hc)) hm

end Node

namespace Locate

/-- The nodes that a declaration is made of are nodes of the tree. -/
theorem everywhere_of_headAt? {P : Node → Prop} {n : Node} (hn : n.Everywhere P) {p : List Nat}
    {h : Head} (hh : headAt? n p = some h) : P h.terminator ∧ (∀ c ∈ h.lead, P c) ∧
      ∀ first, h.opening? = some first → P first := by
  rcases List.eq_nil_or_concat p with rfl | ⟨q, i, rfl⟩
  · cases hh
  rw [List.concat_eq_append] at hh
  obtain ⟨m, hm, hi, -⟩ := headAt?_append hh
  have hall := (Node.everywhere_iff.mp (hn.at? hm)).2
  have hself : ∀ c : Node, c.Everywhere P → P c := fun c hc => hc [] c rfl
  have hsib : ∀ {k : Nat} {c : Node}, m.children[k]? = some c → c.Everywhere P :=
    fun hk => hall _ (List.mem_of_getElem? hk)
  have hlead : ∀ c ∈ h.lead, P c := by
    intro c hc
    obtain ⟨k, -, hk, -⟩ := getElem?_of_mem_lead hi hc
    exact hself c (hsib hk)
  obtain ⟨hnode, -, hs, -⟩ := headIn?_eq_some.mp hi
  refine ⟨hself _ (hsib (terminator_getElem? hi).2.1), hlead, fun first ho => ?_⟩
  rcases h.opening?_cases ho hs with hl | ⟨-, m', hm', hf⟩
  · exact hlead first (List.mem_of_mem_head? hl)
  · have hbelow := (Node.everywhere_iff.mp (hsib hnode)).2
    rcases hm' with rfl | hm'
    · exact hself first (hbelow first hf)
    · exact hself first ((Node.everywhere_iff.mp (hbelow m' hm')).2 first hf)

/-! ## Well-formed trees -/

/-- In a tree over a source a head that has a name and a place to start is declared, and its range
lies in the source, wherever the offsets fall. -/
theorem exists_declare {bytes : Bytes} {n : Node} (hwf : n.WellFormed bytes) {p : List Nat}
    {h : Head} (hh : headAt? n p = some h) {name first : Node}
    (hname : nameNode? h.signature = some name) (ho : h.opening? = some first) :
    ∃ d, h.declare bytes (.ofBytes bytes) = .ok d ∧
      d.range.stop ≤ (Utf8.decodeEscaped bytes).length := by
  obtain ⟨hstop, hstart⟩ := bounds_of_headAt? hwf.spans hh
  have h0 := hwf.start_nonneg
  have hlen := hwf.stop_le
  obtain ⟨h1, h2⟩ := hstart first ho
  obtain ⟨k, hk⟩ := Int.eq_ofNat_of_zero_le (show 0 ≤ first.start by omega)
  obtain ⟨l, hl⟩ := Int.eq_ofNat_of_zero_le (show 0 ≤ h.terminator.stop by omega)
  have hck := Offsets.convert_eq_pointAt bytes (show k ≤ bytes.length by omega)
  have hcl := Offsets.convert_eq_pointAt bytes (show l ≤ bytes.length by omega)
  have hle := Offsets.pointAt_mono (Utf8.decodeEscaped bytes) (show k ≤ l by omega)
  refine ⟨⟨name.text bytes, h.kind, _, _, hle⟩, ?_, Offsets.pointAt_le_length _ l⟩
  refine Head.declare_eq_ok.mpr ⟨name, first, hname, ho, rfl, rfl, ?_, ?_⟩
  · rw [hk]
    exact hck
  · rw [hl]
    exact hcl

/-- The ranges that are located in a tree over a source lie in the source. -/
theorem stop_le_length {u : SourceUnit} (hwf : u.tree.WellFormed u.bytes) {ds : List Declaration}
    (hds : u.declarations = .ok ds) :
    ∀ d ∈ ds, d.range.stop ≤ (Utf8.decodeEscaped u.bytes).length := by
  intro d hd
  obtain ⟨-, hall⟩ := declarations_eq_ok.mp hds
  obtain ⟨hlen, hget⟩ := List.forall₂_iff_get.mp hall
  obtain ⟨⟨i, hi⟩, rfl⟩ := List.get_of_mem hd
  have hdeclare := hget i (by omega) hi
  have hmem := List.get_mem (heads u.tree) ⟨i, by omega⟩
  obtain ⟨name, first, hname, ho, -⟩ := Head.declare_eq_ok.mp hdeclare
  obtain ⟨d, hd, hstop⟩ := exists_declare hwf (mem_heads.mp hmem).1 hname ho
  cases hdeclare.symm.trans hd
  exact hstop

/-- In a tree over a source a head is not declared only when it has no name or no return type. -/
theorem declare_eq_error {bytes : Bytes} {n : Node} (hwf : n.WellFormed bytes) {p : List Nat}
    {h : Head} (hh : headAt? n p = some h) {e : LocateError}
    (he : h.declare bytes (.ofBytes bytes) = .error e) :
    (nameNode? h.signature = none ∧ e = .unnamed h.kind (lineAt bytes h.signature.start)) ∨
      ∃ name, nameNode? h.signature = some name ∧ returnType? h.signature name = none ∧
        e = .untyped h.kind (name.text bytes) (lineAt bytes h.signature.start) := by
  cases hname : nameNode? h.signature with
  | none =>
    rw [Head.declare, Locate.declare, hname] at he
    cases he
    exact .inl ⟨rfl, rfl⟩
  | some name =>
    cases htype : returnType? h.signature name with
    | none =>
      rw [Head.declare, Locate.declare, hname] at he
      dsimp only at he
      rw [htype] at he
      cases he
      exact .inr ⟨name, rfl, htype, rfl⟩
    | some type =>
      have ho : h.opening? = some ((leadingMetadata? h.before h.node).getD type) := by
        rw [Head.opening?, hname, Option.bind_some, htype]
        rfl
      obtain ⟨d, hd, -⟩ := exists_declare hwf hh hname ho
      rw [hd] at he
      cases he

/-- Locating fails in a tree over a source only when the tree has a fault, or a head has no name or
no return type. -/
theorem declarations_eq_error {u : SourceUnit} (hwf : u.tree.WellFormed u.bytes) {e : LocateError}
    (he : u.declarations = .error e) : e = fault u ∨ ∃ p h, (p, h) ∈ heads u.tree ∧
      ((nameNode? h.signature = none ∧ e = .unnamed h.kind (lineAt u.bytes h.signature.start)) ∨
        ∃ name, nameNode? h.signature = some name ∧ returnType? h.signature name = none ∧
          e = .untyped h.kind (name.text u.bytes) (lineAt u.bytes h.signature.start)) := by
  rw [SourceUnit.declarations] at he
  split at he
  · exact .inl (Except.error.inj he).symm
  · rw [below_eq_mapM] at he
    obtain ⟨⟨p, h⟩, hmem, hdeclare⟩ := exists_of_mapM_eq_error he
    exact .inr ⟨p, h, hmem, declare_eq_error hwf (mem_heads.mp hmem).1 hdeclare⟩

/-! ## Readable trees -/

/-- A tree over a source in which every declaration can be told and none is found below an
attachment. -/
structure Readable (bytes : Bytes) (n : Node) : Prop where
  wellFormed : n.WellFormed bytes
  onBoundaries : n.Everywhere (Node.OnBoundaries bytes)
  faultless : n.hasFault = false
  typed : ∀ p h, (p, h) ∈ heads n → ∃ name type, nameNode? h.signature = some name ∧
    returnType? h.signature name = some type
  attachments_bare : n.Everywhere fun m => m.kind.isAttachment = true → ∀ p, headAt? m p = none

/-- A declaration starts at the first node of a head and stops at its terminator. -/
structure Opens (bytes : Bytes) (h : Head) (d : Declaration) : Prop where
  start : ∃ first, h.opening? = some first ∧ Utf8.IsBoundary bytes d.range.start first.start
  stop : Utf8.IsBoundary bytes d.range.stop h.terminator.stop

/-- In a readable tree every head is declared. -/
theorem Readable.declare {bytes : Bytes} {n : Node} (hr : Readable bytes n) {p : List Nat}
    {h : Head} (hh : (p, h) ∈ heads n) :
    ∃ d, h.declare bytes (.ofBytes bytes) = .ok d ∧ Opens bytes h d := by
  obtain ⟨name, type, hname, htype⟩ := hr.typed p h hh
  have hat := (mem_heads.mp hh).1
  obtain ⟨first, ho⟩ : ∃ first, h.opening? = some first := by
    rw [Head.opening?, hname, Option.bind_some, htype]
    exact ⟨_, rfl⟩
  obtain ⟨⟨-, j, hj⟩, -, hfirst⟩ := everywhere_of_headAt? hr.onBoundaries hat
  obtain ⟨⟨i, hi⟩, -⟩ := hfirst first ho
  have hci := Offsets.convert_boundary hi
  have hcj := Offsets.convert_boundary hj
  have hij : i ≤ j := by
    obtain ⟨hstop, hstart⟩ := bounds_of_headAt? hr.wellFormed.spans hat
    have h0 := hr.wellFormed.start_nonneg
    have hlen := hr.wellFormed.stop_le
    have := hstart first ho
    have := Offsets.convert_mono (by omega) (by omega) (by omega) hci hcj
    omega
  refine ⟨⟨name.text bytes, h.kind, i, j, hij⟩, ?_, ⟨first, ho, hi⟩, hj⟩
  exact Head.declare_eq_ok.mpr ⟨name, first, hname, ho, rfl, rfl, hci, hcj⟩

/-- In a readable tree locating succeeds. -/
theorem Readable.declarations {u : SourceUnit} (hr : Readable u.bytes u.tree) :
    ∃ ds, u.declarations = .ok ds ∧
      List.Forall₂ (fun x d => Opens u.bytes x.2 d) (heads u.tree) ds := by
  have key : ∀ hs ⊆ heads u.tree, ∃ ds : List Declaration, List.Forall₂ (fun x d =>
      x.2.declare u.bytes (.ofBytes u.bytes) = .ok d ∧ Opens u.bytes x.2 d) hs ds := by
    intro hs hsub
    induction hs with
    | nil => exact ⟨[], .nil⟩
    | cons x hs ih =>
      rw [List.cons_subset] at hsub
      obtain ⟨d, hd⟩ := hr.declare hsub.1
      obtain ⟨ds, hds⟩ := ih hsub.2
      exact ⟨d :: ds, .cons hd hds⟩
  obtain ⟨ds, hds⟩ := key _ (List.Subset.refl _)
  exact ⟨ds, declarations_eq_ok.mpr ⟨hr.faultless, hds.imp fun _ _ h => h.1⟩,
    hds.imp fun _ _ h => h.2⟩

/-- The offset of the byte where each declaration starts. -/
def starts (bytes : Bytes) (ds : List Declaration) : List Nat :=
  ds.map fun d => Utf8.boundary bytes d.range.start

/-- The declaration of a head starts at byte `b`: with its first leading metadata, or with its type
when there are none. -/
def Head.StartsAt (h : Head) (b : Nat) : Prop :=
  ∃ first : Node, h.opening? = some first ∧ first.start = (b : Int)

theorem starts_of_opens {bytes : Bytes} {hs : List (List Nat × Head)} {ds : List Declaration}
    (h : List.Forall₂ (fun x d => Opens bytes x.2 d) hs ds) :
    List.Forall₂ (fun x b => x.2.StartsAt b) hs (starts bytes ds) := by
  refine List.forall₂_map_right_iff.mpr (h.imp fun x d hd => ?_)
  obtain ⟨first, ho, hb⟩ := hd.start
  exact ⟨first, ho, hb.2⟩

theorem inside_of_opens {bytes : Bytes} {hs : List (List Nat × Head)} {ds : List Declaration}
    (h : List.Forall₂ (fun x d => Opens bytes x.2 d) hs ds) :
    ∀ d ∈ ds, d.range.stop ≤ (Utf8.decodeEscaped bytes).length := by
  induction h with
  | nil => simp
  | cons hd _ ih => exact List.forall_mem_cons.mpr ⟨hd.stop.1, ih⟩

/-- In a readable tree the declarations stand in order and apart. -/
theorem Readable.pairwise {u : SourceUnit} (hr : Readable u.bytes u.tree) {ds : List Declaration}
    (hds : u.declarations = .ok ds) : ds.Pairwise fun a b => a.range.stop ≤ b.range.start := by
  refine pairwise_of_not_clash hr.wellFormed hds fun p h g hh hclash => ?_
  obtain ⟨⟨m, hm, q, hg⟩, -⟩ := hclash
  have hbare := (everywhere_of_headAt? hr.attachments_bare (mem_heads.mp hh).1).2.1 m hm
  have hnone := hbare (Head.isAttachment_of_mem_lead hm) q
  rw [(mem_heads.mp hg).1] at hnone
  cases hnone

theorem Readable.starts_pairwise {u : SourceUnit} (hr : Readable u.bytes u.tree)
    {ds : List Declaration} (hds : u.declarations = .ok ds) :
    (starts u.bytes ds).Pairwise (· ≤ ·) := by
  refine List.pairwise_map.mpr ((hr.pairwise hds).imp fun {a} {b} hab => ?_)
  have := a.range.start_le_stop
  exact Utf8.boundary_mono u.bytes (by omega)

end Locate

end DartComments
