import DartComments.Proofs.Result
import DartComments.Tree.Locate

/-!
# The heads that the walk reports

A position in a tree is a list of child numbers, from the root down. `headAt?` says which positions
are heads, without any walk: a node that could start a declaration, with a terminator among its
following siblings. The siblings up to that terminator are the head's run. A position is `Exposed`
when no node above it is a head or lies in the run of one.

`heads` is the walk without its errors, so that what is found and what becomes of it fall apart:

    below bytes offsets n = (heads n).mapM (·.2.declare bytes offsets)          (below_eq_mapM)
    (p, h) ∈ heads n ↔ headAt? n p = some h ∧ Exposed n p                       (mem_heads)
    the positions of heads n come in document order, each once                  (heads_pairwise)
-/

namespace DartComments

/-- The node at a position below a node. -/
def Node.at? (n : Node) : List Nat → Option Node
  | [] => some n
  | i :: p => (n.children[i]?).bind fun c => c.at? p

namespace Locate

/-- A node that heads a declaration, with what the walk knows when it comes there. -/
structure Head where
  /-- The siblings before it, the nearest first. -/
  before : List Node
  node : Node
  kind : DeclarationKind
  signature : Node
  /-- The number of siblings in its run. -/
  taken : Nat
  terminator : Node

/-- The head that `n` is between the siblings `before`, in reverse, and `rest`. -/
def headOf? (before : List Node) (n : Node) (rest : List Node) : Option Head :=
  match signature? n, terminator? rest with
  | some (kind, s), some (taken, t) => some ⟨before, n, kind, s, taken, t⟩
  | _, _ => none

/-- The head that sibling number `i` is. -/
def headIn? (siblings : List Node) (i : Nat) : Option Head :=
  (siblings[i]?).bind fun n => headOf? (siblings.take i).reverse n (siblings.drop (i + 1))

/-- The head at a position below a node. -/
def headAt? : Node → List Nat → Option Head
  | _, [] => none
  | n, [i] => headIn? n.children i
  | n, i :: j :: p => (n.children[i]?).bind fun c => headAt? c (j :: p)

/-- Position `p` is a sibling in the run of a head. -/
def InRun (n : Node) (p : List Nat) : Prop :=
  ∃ q i j h, p = q ++ [j] ∧ headAt? n (q ++ [i]) = some h ∧ i < j ∧ j ≤ i + h.taken

/-- No node above position `p` is a head or lies in the run of one. -/
def Exposed (n : Node) (p : List Nat) : Prop :=
  ∀ q, q <+: p → q ≠ p → headAt? n q = none ∧ ¬ InRun n q

mutual

/-- The heads that the walk reports below a node, with their positions. -/
def heads : Node → List (List Nat × Head)
  | .mk _ children => headsAmong 0 [] children

/-- The heads at and below siblings, after the first `skip` of them. -/
def headsAmong : Nat → List Node → List Node → List (List Nat × Head)
  | _, _, [] => []
  | skip + 1, before, n :: rest => headsAmong skip (n :: before) rest
  | 0, before, n :: rest =>
    match headOf? before n rest with
    | some h => ([before.length], h) :: headsAmong h.taken (n :: before) rest
    | none =>
      (heads n).map (fun x => (before.length :: x.1, x.2)) ++ headsAmong 0 (n :: before) rest

end

/-- The declaration of a head. -/
def Head.declare (h : Head) (bytes : Bytes) (offsets : Offsets) : Except LocateError Declaration :=
  Locate.declare bytes offsets h.before h.node h.kind h.signature h.terminator

/-! ## The walk is the heads, declared in turn -/

/-- One step of the walk, told by the head that it comes to. -/
theorem among_zero (bytes : Bytes) (offsets : Offsets) (before : List Node) (n : Node)
    (rest : List Node) : among bytes offsets 0 before (n :: rest) =
      (match headOf? before n rest with
      | some h => do
        let d ← h.declare bytes offsets
        let ds ← among bytes offsets h.taken (n :: before) rest
        pure (d :: ds)
      | none => do
        let inner ← below bytes offsets n
        let ds ← among bytes offsets 0 (n :: before) rest
        pure (inner ++ ds)) := by
  rw [among, headOf?]
  cases signature? n with
  | none => rfl
  | some s =>
    cases terminator? rest with
    | none => rfl
    | some t => rfl

mutual

theorem below_eq_mapM (bytes : Bytes) (offsets : Offsets) :
    ∀ n : Node, below bytes offsets n = (heads n).mapM fun x => x.2.declare bytes offsets
  | .mk _ children => by
    rw [below, heads]
    exact among_eq_mapM bytes offsets 0 [] children

theorem among_eq_mapM (bytes : Bytes) (offsets : Offsets) :
    ∀ (skip : Nat) (before rest : List Node), among bytes offsets skip before rest =
      (headsAmong skip before rest).mapM fun x => x.2.declare bytes offsets
  | _, _, [] => by rw [among, headsAmong]; rfl
  | skip + 1, before, n :: rest => by
    rw [among, headsAmong]
    exact among_eq_mapM bytes offsets skip (n :: before) rest
  | 0, before, n :: rest => by
    rw [among_zero, headsAmong]
    cases headOf? before n rest with
    | some h =>
      show _ = List.mapM _ (([before.length], h) :: _)
      rw [List.mapM_cons, ← among_eq_mapM bytes offsets h.taken (n :: before) rest]
    | none =>
      show _ = List.mapM _ (_ ++ _)
      rw [List.mapM_append, List.mapM_map, ← among_eq_mapM bytes offsets 0 (n :: before) rest,
        below_eq_mapM bytes offsets n]
      rfl

end

/-! ## Positions -/

theorem headAt?_cons {n : Node} {i : Nat} {p : List Nat} (hp : p ≠ []) :
    headAt? n (i :: p) = (n.children[i]?).bind fun c => headAt? c p := by
  cases p with
  | nil => exact absurd rfl hp
  | cons j p => rw [headAt?]

theorem not_inRun_nil (n : Node) : ¬ InRun n [] := by
  rintro ⟨q, i, j, h, he, -⟩
  simp at he

theorem inRun_singleton {n : Node} {j : Nat} :
    InRun n [j] ↔ ∃ i h, headIn? n.children i = some h ∧ i < j ∧ j ≤ i + h.taken := by
  constructor
  · rintro ⟨q, i, j', h, he, hh, h1, h2⟩
    have hq : q = [] := by
      have := congrArg List.length he
      simp at this
      exact this
    subst hq
    simp only [List.nil_append, List.cons.injEq, and_true] at he
    subst he
    exact ⟨i, h, hh, h1, h2⟩
  · rintro ⟨i, h, hh, h1, h2⟩
    exact ⟨[], i, j, h, rfl, hh, h1, h2⟩

theorem inRun_cons {n : Node} {k : Nat} {p : List Nat} (hp : p ≠ []) :
    InRun n (k :: p) ↔ ∃ c, n.children[k]? = some c ∧ InRun c p := by
  constructor
  · rintro ⟨q, i, j, h, he, hh, h1, h2⟩
    cases q with
    | nil => simp at he; exact absurd he.2 hp
    | cons k' q =>
      simp only [List.cons_append, List.cons.injEq] at he
      obtain ⟨rfl, rfl⟩ := he
      rw [List.cons_append, headAt?_cons (by simp)] at hh
      obtain ⟨c, hc, hh⟩ := Option.bind_eq_some_iff.mp hh
      exact ⟨c, hc, q, i, j, h, rfl, hh, h1, h2⟩
  · rintro ⟨c, hc, q, i, j, h, rfl, hh, h1, h2⟩
    refine ⟨k :: q, i, j, h, rfl, ?_, h1, h2⟩
    rw [List.cons_append, headAt?_cons (by simp), hc]
    exact hh

/-- Nothing but the root is above a child of the root. -/
theorem exposed_singleton (n : Node) (i : Nat) : Exposed n [i] := by
  intro q hq hne
  rcases List.prefix_cons_iff.mp hq with rfl | ⟨t, rfl, ht⟩
  · exact ⟨rfl, not_inRun_nil n⟩
  · rw [List.prefix_nil.mp ht] at hne
    exact absurd rfl hne

theorem exposed_cons {n : Node} {i : Nat} {p : List Nat} {c : Node} (hp : p ≠ [])
    (hc : n.children[i]? = some c) :
    Exposed n (i :: p) ↔ (headIn? n.children i = none ∧ ¬ InRun n [i]) ∧ Exposed c p := by
  constructor
  · intro h
    refine ⟨h [i] ⟨p, rfl⟩ (by simpa using hp.symm), ?_⟩
    intro q hq hne
    cases q with
    | nil => exact ⟨rfl, not_inRun_nil c⟩
    | cons j q =>
      obtain ⟨h1, h2⟩ := h (i :: j :: q) (List.cons_prefix_cons.mpr ⟨rfl, hq⟩) (by simpa using hne)
      rw [headAt?_cons (by simp), hc] at h1
      refine ⟨h1, fun hr => h2 ?_⟩
      exact (inRun_cons (by simp)).mpr ⟨c, hc, hr⟩
  · rintro ⟨hi, h⟩ q hq hne
    rcases List.prefix_cons_iff.mp hq with rfl | ⟨t, rfl, ht⟩
    · exact ⟨rfl, not_inRun_nil n⟩
    · cases t with
      | nil => exact hi
      | cons j t =>
        obtain ⟨h1, h2⟩ := h (j :: t) ht (fun e => hne (by rw [e]))
        rw [headAt?_cons (by simp), hc]
        refine ⟨h1, fun hr => h2 ?_⟩
        obtain ⟨c', hc', hr'⟩ := (inRun_cons (by simp)).mp hr
        rw [hc] at hc'
        cases hc'
        exact hr'

/-! ## Runs -/

/-- What stands in a run cannot head a declaration. -/
theorem signature?_eq_none {c : Node}
    (h : c.kind.isComment ∨ c.kind = .semicolon ∨ c.kind = .functionBody) : signature? c = none := by
  rw [signature?]
  generalize c.kind = k at h
  rcases h with h | rfl | rfl
  · cases k <;> first | rfl | cases h
  · rfl
  · rfl

/-- Nor can a comment, metadata or a modifier. -/
theorem signature?_eq_none_of_isAttachment {c : Node} (h : c.kind.isAttachment = true) :
    signature? c = none := by
  rw [signature?]
  generalize c.kind = k at h
  cases k <;> first | rfl | cases h

/-- The end of a body: the body, or a semicolon right after it. -/
theorem bodyEnd_cases (body : Node) (rest : List Node) :
    bodyEnd body rest = (1, body) ∨
      ∃ next more, rest = next :: more ∧ next.kind = .semicolon ∧ bodyEnd body rest = (2, next) := by
  unfold bodyEnd
  split
  · next next more _ =>
    split
    · next hk => exact .inr ⟨next, more, rfl, hk, rfl⟩
    · exact .inl rfl
  · exact .inl rfl

/-- A terminator is the last sibling of its run, and the run holds comments, bodies and semicolons
only. -/
theorem terminator?_run {rest : List Node} {taken : Nat} {t : Node}
    (h : terminator? rest = some (taken, t)) :
    0 < taken ∧ rest[taken - 1]? = some t ∧ (t.kind = .semicolon ∨ t.kind = .functionBody) ∧
      ∀ c ∈ rest.take taken, c.kind.isComment ∨ c.kind = .semicolon ∨ c.kind = .functionBody := by
  induction rest generalizing taken with
  | nil => simp [terminator?] at h
  | cons n rest ih =>
    rw [terminator?] at h
    split at h
    · next hc =>
      obtain ⟨⟨taken', t'⟩, hr, he⟩ := Option.map_eq_some_iff.mp h
      simp only [Prod.mk.injEq] at he
      obtain ⟨rfl, rfl⟩ := he
      obtain ⟨hpos, hget, hk, hall⟩ := ih hr
      refine ⟨by omega, ?_, hk, ?_⟩
      · rw [Nat.add_sub_cancel, show taken' = taken' - 1 + 1 by omega, List.getElem?_cons_succ]
        exact hget
      · intro c hm
        rw [List.take_succ_cons] at hm
        rcases List.mem_cons.mp hm with rfl | hm
        · exact .inl hc
        · exact hall c hm
    · split at h
      · next hk =>
        simp only [Option.some.injEq, Prod.mk.injEq] at h
        obtain ⟨rfl, rfl⟩ := h
        refine ⟨by omega, rfl, .inl hk, ?_⟩
        intro c hm
        simp only [List.take_succ_cons, List.take_zero, List.mem_singleton] at hm
        exact .inr (.inl (hm ▸ hk))
      · split at h
        · next hk =>
          simp only [Option.some.injEq] at h
          rcases bodyEnd_cases n rest with he | ⟨next, more, rfl, hsemi, he⟩
          · rw [he] at h
            simp only [Prod.mk.injEq] at h
            obtain ⟨rfl, rfl⟩ := h
            refine ⟨by omega, rfl, .inr hk, ?_⟩
            intro c hm
            simp only [List.take_succ_cons, List.take_zero, List.mem_singleton] at hm
            exact .inr (.inr (hm ▸ hk))
          · rw [he] at h
            simp only [Prod.mk.injEq] at h
            obtain ⟨rfl, rfl⟩ := h
            refine ⟨by omega, rfl, .inl hsemi, ?_⟩
            intro c hm
            simp only [List.take_succ_cons, List.take_zero, List.mem_cons, List.not_mem_nil,
              or_false] at hm
            rcases hm with rfl | rfl
            · exact .inr (.inr hk)
            · exact .inr (.inl hsemi)
        · cases h

theorem headOf?_eq_some {before : List Node} {n : Node} {rest : List Node} {h : Head} :
    headOf? before n rest = some h ↔ h.before = before ∧ h.node = n ∧
      signature? n = some (h.kind, h.signature) ∧ terminator? rest = some (h.taken, h.terminator) := by
  rw [headOf?]
  constructor
  · intro he
    split at he
    · next kind s taken t hs ht =>
      cases he
      exact ⟨rfl, rfl, hs, ht⟩
    · cases he
  · rintro ⟨rfl, rfl, hs, ht⟩
    rw [hs, ht]

theorem headIn?_eq_some {siblings : List Node} {i : Nat} {h : Head} :
    headIn? siblings i = some h ↔ siblings[i]? = some h.node ∧
      h.before = (siblings.take i).reverse ∧ signature? h.node = some (h.kind, h.signature) ∧
      terminator? (siblings.drop (i + 1)) = some (h.taken, h.terminator) := by
  rw [headIn?, Option.bind_eq_some_iff]
  constructor
  · rintro ⟨n, hn, hh⟩
    obtain ⟨hb, rfl, hs, ht⟩ := headOf?_eq_some.mp hh
    exact ⟨hn, hb, hs, ht⟩
  · rintro ⟨hn, hb, hs, ht⟩
    exact ⟨h.node, hn, headOf?_eq_some.mpr ⟨hb, rfl, hs, ht⟩⟩

/-- No sibling in the run of a head is a head. -/
theorem headIn?_eq_none_of_run {siblings : List Node} {i j : Nat} {h : Head}
    (hh : headIn? siblings i = some h) (h1 : i < j) (h2 : j ≤ i + h.taken) :
    headIn? siblings j = none := by
  obtain ⟨-, -, -, ht⟩ := headIn?_eq_some.mp hh
  obtain ⟨-, -, -, hall⟩ := terminator?_run ht
  cases hj : siblings[j]? with
  | none => rw [headIn?, hj]; rfl
  | some c =>
    have hm : c ∈ (siblings.drop (i + 1)).take h.taken := by
      apply List.mem_of_getElem? (i := j - (i + 1))
      rw [List.getElem?_take_of_lt (by omega), List.getElem?_drop]
      rw [show i + 1 + (j - (i + 1)) = j by omega]
      exact hj
    rw [headIn?, hj]
    show headOf? _ c _ = none
    rw [headOf?, signature?_eq_none (hall c hm)]

/-! ## What the walk has taken when it comes to a sibling -/

/-- A head before sibling `k` takes sibling `i` into its run. -/
def TakenBefore (siblings : List Node) (k i : Nat) : Prop :=
  ∃ j h, headIn? siblings j = some h ∧ j < k ∧ i ≤ j + h.taken

/-- At sibling `k` the walk skips exactly the siblings that the heads before it take. -/
def Reached (siblings : List Node) (k skip : Nat) : Prop :=
  ∀ i, k ≤ i → (TakenBefore siblings k i ↔ i < k + skip)

theorem inRun_singleton_iff {n : Node} {j : Nat} : InRun n [j] ↔ TakenBefore n.children j j :=
  inRun_singleton

theorem reached_zero (siblings : List Node) : Reached siblings 0 0 := by
  intro i hi
  constructor
  · rintro ⟨j, h, -, hj, -⟩
    omega
  · intro h
    omega

/-- Passing sibling `k` adds what that sibling takes. -/
theorem takenBefore_succ {siblings : List Node} {k i : Nat} :
    TakenBefore siblings (k + 1) i ↔ TakenBefore siblings k i ∨
      ∃ h, headIn? siblings k = some h ∧ i ≤ k + h.taken := by
  constructor
  · rintro ⟨j, h, hh, hj, hi⟩
    rcases Nat.lt_or_eq_of_le (Nat.le_of_lt_succ hj) with hlt | rfl
    · exact .inl ⟨j, h, hh, hlt, hi⟩
    · exact .inr ⟨h, hh, hi⟩
  · rintro (⟨j, h, hh, hj, hi⟩ | ⟨h, hh, hi⟩)
    · exact ⟨j, h, hh, by omega, hi⟩
    · exact ⟨k, h, hh, by omega, hi⟩

theorem reached_of_head {siblings : List Node} {k : Nat} {h : Head} (hr : Reached siblings k 0)
    (hh : headIn? siblings k = some h) : Reached siblings (k + 1) h.taken := by
  intro i hi
  rw [takenBefore_succ, hr i (by omega)]
  constructor
  · rintro (hlt | ⟨h', hh', hle⟩)
    · omega
    · rw [hh] at hh'
      cases hh'
      omega
  · intro hlt
    exact .inr ⟨h, hh, by omega⟩

theorem reached_of_not_head {siblings : List Node} {k : Nat} (hr : Reached siblings k 0)
    (hh : headIn? siblings k = none) : Reached siblings (k + 1) 0 := by
  intro i hi
  rw [takenBefore_succ, hr i (by omega), hh]
  constructor
  · rintro (hlt | ⟨h', hh', -⟩)
    · omega
    · cases hh'
  · intro hlt
    omega

theorem headIn?_eq_none_of_skip {siblings : List Node} {k skip : Nat}
    (hr : Reached siblings k (skip + 1)) : headIn? siblings k = none := by
  obtain ⟨j, h, hh, hj, hi⟩ := (hr k (Nat.le_refl k)).mpr (by omega)
  exact headIn?_eq_none_of_run hh hj hi

theorem reached_of_skip {siblings : List Node} {k skip : Nat}
    (hr : Reached siblings k (skip + 1)) : Reached siblings (k + 1) skip := by
  intro i hi
  rw [takenBefore_succ, hr i (by omega), headIn?_eq_none_of_skip hr]
  constructor
  · rintro (hlt | ⟨h', hh', -⟩)
    · omega
    · cases hh'
  · intro hlt
    exact .inl (by omega)

/-! ## The heads of the walk are the exposed heads -/

theorem headIn?_append (before : List Node) (n : Node) (rest : List Node) :
    headIn? (before.reverse ++ n :: rest) before.length = headOf? before n rest := by
  have hlen : before.length = before.reverse.length := List.length_reverse.symm
  rw [headIn?, hlen, List.getElem?_append_right (Nat.le_refl _), Nat.sub_self]
  show headOf? _ n _ = _
  rw [List.take_left, List.reverse_reverse, ← List.drop_drop, List.drop_left]
  rfl

theorem reverse_cons_append (before : List Node) (n : Node) (rest : List Node) :
    (n :: before).reverse ++ rest = before.reverse ++ n :: rest := by
  rw [List.reverse_cons, List.append_assoc, List.singleton_append]

/-- Position `q` below sibling `i` is reported: the sibling itself as a head, or a head below it
when it is neither a head nor taken by one. -/
def ReportedIn (siblings : List Node) (i : Nat) (q : List Nat) (h : Head) : Prop :=
  (q = [] ∧ headIn? siblings i = some h) ∨
    (headIn? siblings i = none ∧ ¬ TakenBefore siblings i i ∧
      ∃ c, siblings[i]? = some c ∧ (q, h) ∈ heads c)

theorem mem_headsAmong {siblings : List Node} {p : List Nat} {h : Head} :
    ∀ (skip : Nat) (before rest : List Node), siblings = before.reverse ++ rest →
      Reached siblings before.length skip →
      ((p, h) ∈ headsAmong skip before rest ↔
        ∃ i q, before.length ≤ i ∧ p = i :: q ∧ ReportedIn siblings i q h) := by
  intro skip before rest
  induction rest generalizing skip before with
  | nil =>
    rintro rfl -
    rw [headsAmong]
    constructor
    · intro hm
      cases hm
    · rintro ⟨i, q, hi, -, hrep⟩
      have hnone : (before.reverse ++ [])[i]? = none := by simpa using hi
      rcases hrep with ⟨-, hh⟩ | ⟨-, -, c, hc, -⟩
      · rw [headIn?, hnone] at hh
        cases hh
      · rw [hnone] at hc
        cases hc
  | cons n rest ih =>
    intro hsib hr
    have hsib' := hsib.trans (reverse_cons_append before n rest).symm
    have hk : headIn? siblings before.length = headOf? before n rest := by
      rw [hsib, headIn?_append]
    have hget : siblings[before.length]? = some n := by
      rw [hsib, List.getElem?_append_right (by simp)]
      simp
    cases skip with
    | succ skip =>
      rw [headsAmong, ih skip (n :: before) hsib' (reached_of_skip hr)]
      constructor
      · rintro ⟨i, q, hi, hp, hrep⟩
        exact ⟨i, q, Nat.le_of_succ_le hi, hp, hrep⟩
      · rintro ⟨i, q, hi, hp, hrep⟩
        refine ⟨i, q, ?_, hp, hrep⟩
        rcases Nat.lt_or_eq_of_le hi with hlt | rfl
        · exact hlt
        -- the sibling here is taken: it is no head, and is not walked into
        · rcases hrep with ⟨-, hh⟩ | ⟨-, hnot, -⟩
          · rw [headIn?_eq_none_of_skip hr] at hh
            cases hh
          · exact absurd ((hr _ (Nat.le_refl _)).mpr (by omega)) hnot
    | zero =>
      have hfree : ¬ TakenBefore siblings before.length before.length := by
        intro ht
        have := (hr _ (Nat.le_refl _)).mp ht
        omega
      rw [headsAmong]
      cases hhead : headOf? before n rest with
      | some g =>
        rw [hhead] at hk
        show (p, h) ∈ ([before.length], g) :: headsAmong g.taken (n :: before) rest ↔ _
        rw [List.mem_cons, ih g.taken (n :: before) hsib' (reached_of_head hr hk)]
        constructor
        · rintro (he | ⟨i, q, hi, hp, hrep⟩)
          · cases he
            exact ⟨before.length, [], Nat.le_refl _, rfl, .inl ⟨rfl, hk⟩⟩
          · exact ⟨i, q, Nat.le_of_succ_le hi, hp, hrep⟩
        · rintro ⟨i, q, hi, rfl, hrep⟩
          rcases Nat.lt_or_eq_of_le hi with hlt | rfl
          · exact .inr ⟨i, q, hlt, rfl, hrep⟩
          · rcases hrep with ⟨rfl, hh⟩ | ⟨hno, -⟩
            · rw [hk] at hh
              cases hh
              exact .inl rfl
            · rw [hk] at hno
              cases hno
      | none =>
        rw [hhead] at hk
        show (p, h) ∈ _ ++ headsAmong 0 (n :: before) rest ↔ _
        rw [List.mem_append, ih 0 (n :: before) hsib' (reached_of_not_head hr hk), List.mem_map]
        constructor
        · rintro (⟨⟨q, g⟩, hm, he⟩ | ⟨i, q, hi, hp, hrep⟩)
          · cases he
            exact ⟨before.length, q, Nat.le_refl _, rfl, .inr ⟨hk, hfree, n, hget, hm⟩⟩
          · exact ⟨i, q, Nat.le_of_succ_le hi, hp, hrep⟩
        · rintro ⟨i, q, hi, rfl, hrep⟩
          rcases Nat.lt_or_eq_of_le hi with hlt | rfl
          · exact .inr ⟨i, q, hlt, rfl, hrep⟩
          · rcases hrep with ⟨-, hh⟩ | ⟨-, -, c, hc, hm⟩
            · rw [hk] at hh
              cases hh
            · rw [hget] at hc
              cases hc
              exact .inl ⟨(q, h), hm, rfl⟩

theorem mem_heads_iff {n : Node} {p : List Nat} {h : Head} :
    (p, h) ∈ heads n ↔ ∃ i q, p = i :: q ∧ ReportedIn n.children i q h := by
  obtain ⟨info, children⟩ := n
  rw [heads, mem_headsAmong 0 [] children rfl (reached_zero _)]
  constructor
  · rintro ⟨i, q, -, hp, hrep⟩
    exact ⟨i, q, hp, hrep⟩
  · rintro ⟨i, q, hp, hrep⟩
    exact ⟨i, q, Nat.zero_le _, hp, hrep⟩

/-- The walk reports exactly the exposed heads. -/
theorem mem_heads {n : Node} {p : List Nat} {h : Head} :
    (p, h) ∈ heads n ↔ headAt? n p = some h ∧ Exposed n p := by
  induction p generalizing n with
  | nil =>
    rw [mem_heads_iff]
    constructor
    · rintro ⟨i, q, hp, -⟩
      cases hp
    · rintro ⟨hh, -⟩
      cases hh
  | cons i q ih =>
    rw [mem_heads_iff]
    constructor
    · rintro ⟨i', q', hp, hrep⟩
      cases hp
      rcases hrep with ⟨rfl, hh⟩ | ⟨hno, hfree, c, hc, hm⟩
      · exact ⟨hh, exposed_singleton n i⟩
      · obtain ⟨hh, hex⟩ := ih.mp hm
        have hq : q ≠ [] := by
          rintro rfl
          cases hh
        rw [headAt?_cons hq, hc, exposed_cons hq hc, inRun_singleton_iff]
        exact ⟨hh, ⟨hno, hfree⟩, hex⟩
    · rintro ⟨hh, hex⟩
      refine ⟨i, q, rfl, ?_⟩
      cases q with
      | nil => exact .inl ⟨rfl, hh⟩
      | cons j q =>
        rw [headAt?_cons (by simp)] at hh
        obtain ⟨c, hc, hh⟩ := Option.bind_eq_some_iff.mp hh
        rw [exposed_cons (by simp) hc, inRun_singleton_iff] at hex
        exact .inr ⟨hex.1.1, hex.1.2, c, hc, ih.mpr ⟨hh, hex.2⟩⟩

/-! ## Document order -/

theorem le_of_mem_headsAmong {x : List Nat × Head} :
    ∀ (skip : Nat) (before rest : List Node), x ∈ headsAmong skip before rest →
      ∃ i q, before.length ≤ i ∧ x.1 = i :: q := by
  intro skip before rest
  induction rest generalizing skip before with
  | nil =>
    intro hm
    rw [headsAmong] at hm
    cases hm
  | cons n rest ih =>
    have hlater : ∀ skip', x ∈ headsAmong skip' (n :: before) rest →
        ∃ i q, before.length ≤ i ∧ x.1 = i :: q := by
      intro skip' hm
      obtain ⟨i, q, hi, hx⟩ := ih skip' (n :: before) hm
      exact ⟨i, q, Nat.le_of_succ_le hi, hx⟩
    intro hm
    cases skip with
    | succ skip =>
      rw [headsAmong] at hm
      exact hlater skip hm
    | zero =>
      rw [headsAmong] at hm
      cases hhead : headOf? before n rest with
      | some g =>
        rw [hhead] at hm
        rcases List.mem_cons.mp hm with rfl | hm
        · exact ⟨before.length, [], Nat.le_refl _, rfl⟩
        · exact hlater _ hm
      | none =>
        rw [hhead] at hm
        rcases List.mem_append.mp hm with hm | hm
        · obtain ⟨y, -, rfl⟩ := List.mem_map.mp hm
          exact ⟨before.length, y.1, Nat.le_refl _, rfl⟩
        · exact hlater _ hm

/-- Positions below sibling `before.length` come before those of the later siblings. -/
theorem lt_of_mem_headsAmong {x : List Nat × Head} {skip : Nat} {before rest : List Node} {n : Node}
    (hx : x ∈ headsAmong skip (n :: before) rest) (p : List Nat) : before.length :: p < x.1 := by
  obtain ⟨i, q, hi, he⟩ := le_of_mem_headsAmong skip (n :: before) rest hx
  rw [he, List.cons_lt_cons_iff]
  exact .inl hi

mutual

/-- The walk reports heads in document order, each once. -/
theorem heads_pairwise : ∀ n : Node, (heads n).Pairwise fun x y => x.1 < y.1
  | .mk _ children => by
    rw [heads]
    exact headsAmong_pairwise 0 [] children

theorem headsAmong_pairwise : ∀ (skip : Nat) (before rest : List Node),
    (headsAmong skip before rest).Pairwise fun x y => x.1 < y.1
  | _, _, [] => by
    rw [headsAmong]
    exact .nil
  | skip + 1, before, n :: rest => by
    rw [headsAmong]
    exact headsAmong_pairwise skip (n :: before) rest
  | 0, before, n :: rest => by
    rw [headsAmong]
    cases headOf? before n rest with
    | some h =>
      refine .cons (fun y hy => ?_) (headsAmong_pairwise h.taken (n :: before) rest)
      exact lt_of_mem_headsAmong hy []
    | none =>
      refine List.pairwise_append.mpr ⟨?_, headsAmong_pairwise 0 (n :: before) rest, ?_⟩
      · refine List.pairwise_map.mpr ((heads_pairwise n).imp fun hlt => ?_)
        exact List.cons_lt_cons_iff.mpr (.inr ⟨rfl, hlt⟩)
      · intro x hx y hy
        obtain ⟨z, -, rfl⟩ := List.mem_map.mp hx
        exact lt_of_mem_headsAmong hy z.1

end

/-! ## Declaring a head -/

/-- The node where a declaration starts: its first leading metadata, else its return type. -/
def Head.opening? (h : Head) : Option Node :=
  ((nameNode? h.signature).bind (returnType? h.signature)).map fun type =>
    (leadingMetadata? h.before h.node).getD type

theorem ofInts_eq_ok {a b : Int} {r : SourceRange} :
    SourceRange.ofInts a b = .ok r ↔ a = r.start ∧ b = r.stop := by
  have hle := r.start_le_stop
  unfold SourceRange.ofInts
  split
  · next hab =>
    obtain ⟨start, stop, _⟩ := r
    simp only [Except.ok.injEq, SourceRange.mk.injEq]
    omega
  · next hab =>
    constructor
    · intro he
      cases he
    · rintro ⟨rfl, rfl⟩
      omega

/-- A head is declared with the name of its signature, from its opening to its terminator. -/
theorem Head.declare_eq_ok {h : Head} {bytes : Bytes} {offsets : Offsets} {d : Declaration} :
    h.declare bytes offsets = .ok d ↔ ∃ name first, nameNode? h.signature = some name ∧
      h.opening? = some first ∧ d.name = name.text bytes ∧ d.kind = h.kind ∧
      offsets.convert first.start = .ok (d.range.start : Int) ∧
      offsets.convert h.terminator.stop = .ok (d.range.stop : Int) := by
  simp only [Head.declare, Locate.declare, Head.opening?]
  cases nameNode? h.signature with
  | none => simp
  | some name =>
    simp only [Option.bind_some]
    cases returnType? h.signature name with
    | none => simp
    | some type =>
      simp only [Option.map_some, Option.some.injEq, exists_and_left, exists_eq_left']
      generalize ((leadingMetadata? h.before h.node).getD type).start = begins
      simp only [bind_eq_ok, offsetOf, mapError_eq_ok, ofInts_eq_ok]
      constructor
      · rintro ⟨a, ha, b, hb, r, ⟨rfl, rfl⟩, he⟩
        cases he
        exact ⟨rfl, rfl, ha, hb⟩
      · rintro ⟨hname, hkind, ha, hb⟩
        refine ⟨_, ha, _, hb, d.range, ⟨rfl, rfl⟩, ?_⟩
        rw [← hname, ← hkind]
        rfl

/-! ## Exactness -/

/-- A bare signature heads a function, the wrapper of a member's signature a method. -/
theorem signature?_kind {n s : Node} {kind : DeclarationKind} (h : signature? n = some (kind, s)) :
    (n.kind.isFunctionSignature ∧ kind = .function) ∨ (n.kind.isMemberWrapper ∧ kind = .method) := by
  rw [signature?] at h
  split at h
  · next hk =>
    cases h
    exact .inl ⟨hk, rfl⟩
  · split at h
    · next hk =>
      obtain ⟨s', -, he⟩ := Option.map_eq_some_iff.mp h
      cases he
      exact .inr ⟨hk, rfl⟩
    · cases h

theorem headAt?_append {n : Node} {q : List Nat} {i : Nat} {h : Head}
    (hh : headAt? n (q ++ [i]) = some h) : ∃ m, n.at? q = some m ∧ headIn? m.children i = some h ∧
      ∀ j, headAt? n (q ++ [j]) = headIn? m.children j := by
  induction q generalizing n with
  | nil => exact ⟨n, rfl, hh, fun j => rfl⟩
  | cons k q ih =>
    rw [List.cons_append, headAt?_cons (by simp)] at hh
    obtain ⟨c, hc, hh⟩ := Option.bind_eq_some_iff.mp hh
    obtain ⟨m, hm, hi, hj⟩ := ih hh
    refine ⟨m, ?_, hi, fun j => ?_⟩
    · rw [Node.at?, hc]
      exact hm
    · rw [List.cons_append, headAt?_cons (by simp), hc]
      exact hj j

/-- A head of a sequence of siblings is a head with the signature that it was found with. -/
theorem signature?_of_headAt? {n : Node} {p : List Nat} {h : Head} (hh : headAt? n p = some h) :
    signature? h.node = some (h.kind, h.signature) := by
  rcases List.eq_nil_or_concat p with rfl | ⟨q, i, rfl⟩
  · cases hh
  · rw [List.concat_eq_append] at hh
    obtain ⟨m, -, hi, -⟩ := headAt?_append hh
    exact (headIn?_eq_some.mp hi).2.2.1

/-- The declarations `ds` tell exactly the exposed heads `hs` of a tree, in document order. -/
structure Tells (u : SourceUnit) (hs : List (List Nat × Head)) (ds : List Declaration) : Prop where
  ordered : hs.Pairwise fun x y => x.1 < y.1
  exact : ∀ p h, (p, h) ∈ hs ↔ headAt? u.tree p = some h ∧ Exposed u.tree p
  declared : List.Forall₂ (fun x d =>
    ((x.2.node.kind.isFunctionSignature ∧ d.kind = .function) ∨
      (x.2.node.kind.isMemberWrapper ∧ d.kind = .method)) ∧
    (Offsets.ofBytes u.bytes).convert x.2.terminator.stop = .ok (d.range.stop : Int)) hs ds

theorem declarations_eq_ok {u : SourceUnit} {ds : List Declaration} :
    u.declarations = .ok ds ↔ u.tree.hasFault = false ∧
      List.Forall₂ (fun x d => x.2.declare u.bytes (.ofBytes u.bytes) = .ok d) (heads u.tree) ds := by
  rw [SourceUnit.declarations]
  cases u.tree.hasFault with
  | true => simp
  | false =>
    rw [if_neg (by simp), below_eq_mapM, mapM_eq_ok]
    simp

/-- What is located is one declaration for each exposed head, in document order. Going on after a
terminator misses no head, for there is none in a run. -/
theorem declarations_tell_exposed_heads (u : SourceUnit) (ds : List Declaration)
    (h : u.declarations = .ok ds) :
    (∃ hs, Tells u hs ds) ∧ ∀ q i j g, headAt? u.tree (q ++ [i]) = some g →
      i < j → j ≤ i + g.taken → headAt? u.tree (q ++ [j]) = none := by
  obtain ⟨-, hall⟩ := declarations_eq_ok.mp h
  refine ⟨⟨heads u.tree, heads_pairwise u.tree, fun p g => mem_heads, ?_⟩, ?_⟩
  · refine List.forall₂_iff_get.mpr ?_
    obtain ⟨hlen, hget⟩ := List.forall₂_iff_get.mp hall
    refine ⟨hlen, fun i h1 h2 => ?_⟩
    obtain ⟨name, first, -, -, -, hkind, -, hstop⟩ := Head.declare_eq_ok.mp (hget i h1 h2)
    have hm : headAt? u.tree ((heads u.tree).get ⟨i, h1⟩).1 = some ((heads u.tree).get ⟨i, h1⟩).2 :=
      (mem_heads.mp (List.get_mem _ _)).1
    rw [hkind]
    exact ⟨signature?_kind (signature?_of_headAt? hm), hstop⟩
  · intro q i j g hg h1 h2
    obtain ⟨m, -, hi, hj⟩ := headAt?_append hg
    rw [hj]
    exact headIn?_eq_none_of_run hi h1 h2

/-- A node without children. -/
def leaf (kind : NodeKind) (start stop : Int) : Node := .mk { kind, start, stop } []

theorem headAt?_leaf (kind : NodeKind) (start stop : Int) (p : List Nat) :
    headAt? (leaf kind start stop) p = none := by
  cases p with
  | nil => rfl
  | cons i p => cases p <;> rfl

/-- A signature of seven bytes: a type of three, a blank, a name of one, and two parentheses. -/
def shortSignature (start : Int) : Node :=
  .mk { kind := .functionSignature, start, stop := start + 7 }
    [leaf (.other []) start (start + 3),
      .mk { kind := .identifier, start := start + 4, stop := start + 5, holdsName := true } [],
      leaf .parameters (start + 5) (start + 7)]

/-- `A(){int g();}int f(){int h();}`: a constructor with a local function, and a function with
another. -/
def nestedUnit : SourceUnit :=
  let bytes := [65, 40, 41, 123, 105, 110, 116, 32, 103, 40, 41, 59, 125, 105, 110, 116, 32, 102,
    40, 41, 123, 105, 110, 116, 32, 104, 40, 41, 59, 125]
  { path := none
    source := Utf8.decodeEscaped bytes
    bytes
    tree := .mk { kind := .other [], start := 0, stop := 30 }
      [.mk { kind := .methodSignature, start := 0, stop := 3 } [leaf (.other []) 0 3],
        .mk { kind := .functionBody, start := 3, stop := 13 }
          [shortSignature 4, leaf .semicolon 11 12],
        shortSignature 13,
        .mk { kind := .functionBody, start := 20, stop := 30 }
          [shortSignature 21, leaf .semicolon 28 29]] }

/-- The local function of the constructor is found, that of the function is not. -/
theorem nestedUnit_tells_exposed_heads :
    ∃ g f, nestedUnit.declarations = .ok [g, f] ∧
      ((∃ hs, Tells nestedUnit hs [g, f]) ∧ ∀ q i j h, headAt? nestedUnit.tree (q ++ [i]) = some h →
        i < j → j ≤ i + h.taken → headAt? nestedUnit.tree (q ++ [j]) = none) :=
  ⟨⟨[.char 'g'], .function, 4, 12, by decide⟩, ⟨[.char 'f'], .function, 13, 30, by decide⟩, rfl,
    declarations_tell_exposed_heads nestedUnit _ rfl⟩

end Locate

end DartComments
