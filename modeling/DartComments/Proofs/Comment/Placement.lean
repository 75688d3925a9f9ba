import DartComments.Proofs.Comment.Insertion
import DartComments.Proofs.Source.Declaration
import Mathlib.Algebra.GroupWithZero.Nat

/-!
# Where the comments stand

For declarations in ascending order the one pass over the source comes to the same as putting in the
comments one by one, the last first, so that no insertion moves the place of another one:

    splice source 0 ps = insertFromLast source ps                    (splice_eq_insertFromLast)

In the result each piece has moved by the length of the pieces before it (`blocks`), and striking
out what stands there gives the source back.
-/

namespace DartComments

namespace Insertion

variable {α : Type}

/-- A text with a piece put in at a place. -/
def insertAt (t : List α) (place : Nat) (piece : List α) : List α :=
  t.take place ++ piece ++ t.drop place

/-- A text with pieces put in one after the other, from the last one to the first. -/
def insertFromLast (source : List α) (ps : List (Nat × List α)) : List α :=
  ps.foldr (fun p t => insertAt t p.1 p.2) source

/-- Where each piece stands in the end, moved by the length of those before it, and how long it
is. -/
def blocks (ps : List (Nat × List α)) : List (Nat × Nat) :=
  ps.zipIdx.map fun x => (x.1.1 + ((ps.take x.2).map fun p => p.2.length).sum, x.1.2.length)

/-- What is left of a text when the blocks are struck out; its items are numbered from `n` on. -/
def strikeOut (bs : List (Nat × Nat)) (n : Nat) (t : List α) : List α :=
  ((t.zipIdx n).filter fun x => bs.all fun b => x.2 < b.1 || b.1 + b.2 ≤ x.2).map Prod.fst

/-! ## One piece -/

theorem length_insertAt (t : List α) (place : Nat) (piece : List α) :
    (insertAt t place piece).length = t.length + piece.length := by
  simp only [insertAt, List.length_append, List.length_take, List.length_drop]
  omega

theorem take_insertAt {t : List α} {place n : Nat} (piece : List α) (hn : n ≤ place)
    (hlen : n ≤ t.length) : (insertAt t place piece).take n = t.take n := by
  have hle : n ≤ (t.take place).length := by
    rw [List.length_take]
    omega
  rw [insertAt, List.append_assoc, List.take_append_of_le_length hle, List.take_take,
    Nat.min_eq_left hn]

/-- The piece stands where it was put in. -/
theorem drop_insertAt {t : List α} {place : Nat} (piece : List α) (hlen : place ≤ t.length) :
    (insertAt t place piece).drop place = piece ++ t.drop place := by
  have hplace : (t.take place).length = place := by
    rw [List.length_take]
    omega
  rw [insertAt, List.append_assoc, List.drop_left' hplace]

/-- What lay behind the place has moved by the length of the piece. -/
theorem drop_add_insertAt {t : List α} {place n : Nat} (piece : List α) (hlen : place ≤ t.length)
    (hn : place ≤ n) : (insertAt t place piece).drop (n + piece.length) = t.drop n := by
  have hsplit : n + piece.length = place + (piece.length + (n - place)) := by omega
  rw [hsplit, ← List.drop_drop, drop_insertAt piece hlen, ← List.drop_drop, List.drop_left,
    List.drop_drop]
  congr 1
  omega

/-! ## All pieces -/

theorem insertFromLast_cons (source : List α) (p : Nat × List α) (ps : List (Nat × List α)) :
    insertFromLast source (p :: ps) = insertAt (insertFromLast source ps) p.1 p.2 :=
  rfl

theorem length_le_insertFromLast (source : List α) (ps : List (Nat × List α)) :
    source.length ≤ (insertFromLast source ps).length := by
  induction ps with
  | nil => exact Nat.le_refl _
  | cons p ps ih =>
    rw [insertFromLast_cons, length_insertAt]
    omega

/-- What lies before all the places stays as it is. -/
theorem take_insertFromLast {source : List α} {ps : List (Nat × List α)} {n : Nat}
    (hps : ∀ p ∈ ps, n ≤ p.1) (hn : n ≤ source.length) :
    (insertFromLast source ps).take n = source.take n := by
  induction ps with
  | nil => rfl
  | cons p ps ih =>
    obtain ⟨hp, hps⟩ := List.forall_mem_cons.mp hps
    have hlen := length_le_insertFromLast source ps
    rw [insertFromLast_cons, take_insertAt p.2 hp (by omega), ih hps]

/-- One pass with a cursor puts in the pieces as the insertions from the last one do. -/
theorem splice_eq_drop_insertFromLast {source : List α} {ps : List (Nat × List α)} {cursor : Nat}
    (hsorted : ps.Pairwise fun p q => p.1 ≤ q.1) (hin : ∀ p ∈ ps, p.1 ≤ source.length)
    (hcursor : ∀ p ∈ ps, cursor ≤ p.1) :
    splice source cursor ps = (insertFromLast source ps).drop cursor := by
  induction ps generalizing cursor with
  | nil => rfl
  | cons p ps ih =>
    obtain ⟨place, piece⟩ := p
    obtain ⟨hlater, hsorted⟩ := List.pairwise_cons.mp hsorted
    obtain ⟨hplace, hin⟩ := List.forall_mem_cons.mp hin
    have hle : cursor ≤ (source.take place).length := by
      have := hcursor _ List.mem_cons_self
      rw [List.length_take]
      omega
    rw [splice, ih hsorted hin hlater, insertFromLast_cons, insertAt,
      take_insertFromLast hlater hplace, List.append_assoc, List.append_assoc,
      List.drop_append_of_le_length hle]

theorem splice_eq_insertFromLast {source : List α} {ps : List (Nat × List α)}
    (hsorted : ps.Pairwise fun p q => p.1 ≤ q.1) (hin : ∀ p ∈ ps, p.1 ≤ source.length) :
    splice source 0 ps = insertFromLast source ps :=
  splice_eq_drop_insertFromLast hsorted hin fun p _ => Nat.zero_le p.1

/-- Each piece stands, whole, at its place moved by the length of the pieces before it. -/
theorem prefix_drop_insertFromLast {source : List α} {ps : List (Nat × List α)}
    (hsorted : ps.Pairwise fun p q => p.1 ≤ q.1) (hin : ∀ p ∈ ps, p.1 ≤ source.length) {i : Nat}
    {p : Nat × List α} (hi : ps[i]? = some p) :
    p.2 <+: (insertFromLast source ps).drop (p.1 + ((ps.take i).map fun q => q.2.length).sum) := by
  induction ps generalizing i with
  | nil => simp at hi
  | cons q ps ih =>
    obtain ⟨hlater, hsorted⟩ := List.pairwise_cons.mp hsorted
    obtain ⟨hq, hin⟩ := List.forall_mem_cons.mp hin
    have hlen : q.1 ≤ (insertFromLast source ps).length :=
      Nat.le_trans hq (length_le_insertFromLast source ps)
    rw [insertFromLast_cons]
    cases i with
    | zero =>
      cases hi
      rw [List.take_zero, List.map_nil, List.sum_nil, Nat.add_zero, drop_insertAt _ hlen]
      exact List.prefix_append _ _
    | succ i =>
      rw [List.getElem?_cons_succ] at hi
      have hle := hlater p (List.mem_of_getElem? hi)
      have hmoved : p.1 + (((q :: ps).take (i + 1)).map fun r => r.2.length).sum =
          p.1 + ((ps.take i).map fun r => r.2.length).sum + q.2.length := by
        rw [List.take_succ_cons, List.map_cons, List.sum_cons]
        omega
      rw [hmoved, drop_add_insertAt _ hlen (by omega)]
      exact ih hsorted hin hi

/-! ## Striking the pieces out again -/

theorem strikeOut_cons (bs : List (Nat × Nat)) (n : Nat) (a : α) (t : List α) :
    strikeOut bs n (a :: t) =
      (if bs.all fun b => n < b.1 || b.1 + b.2 ≤ n then [a] else []) ++ strikeOut bs (n + 1) t := by
  simp only [strikeOut, List.zipIdx_cons, List.filter_cons]
  split <;> rfl

theorem strikeOut_append (bs : List (Nat × Nat)) (n : Nat) (s t : List α) :
    strikeOut bs n (s ++ t) = strikeOut bs n s ++ strikeOut bs (n + s.length) t := by
  simp only [strikeOut, List.zipIdx_append, List.filter_append, List.map_append]

/-- Blocks that all start later strike nothing out. -/
theorem strikeOut_of_before {bs : List (Nat × Nat)} {n : Nat} {t : List α}
    (h : ∀ b ∈ bs, n + t.length ≤ b.1) : strikeOut bs n t = t := by
  induction t generalizing n with
  | nil => rfl
  | cons a t ih =>
    rw [List.length_cons] at h
    have hkept : (bs.all fun b => n < b.1 || b.1 + b.2 ≤ n) = true := by
      refine List.all_eq_true.mpr fun b hb => ?_
      have := h b hb
      simp only [Bool.or_eq_true, decide_eq_true_eq]
      omega
    rw [strikeOut_cons, if_pos hkept, ih fun b hb => by have := h b hb; omega]
    rfl

/-- A block strikes out what it covers. -/
theorem strikeOut_of_covered {bs : List (Nat × Nat)} {n : Nat} {t : List α} {b : Nat × Nat}
    (hb : b ∈ bs) (h1 : b.1 ≤ n) (h2 : n + t.length ≤ b.1 + b.2) : strikeOut bs n t = [] := by
  induction t generalizing n with
  | nil => rfl
  | cons a t ih =>
    rw [List.length_cons] at h2
    have hstruck : ¬ (bs.all fun b => n < b.1 || b.1 + b.2 ≤ n) = true := by
      intro hall
      have := List.all_eq_true.mp hall b hb
      simp only [Bool.or_eq_true, decide_eq_true_eq] at this
      omega
    rw [strikeOut_cons, if_neg hstruck, ih (by omega) (by omega)]
    rfl

/-- Blocks that move along with a text strike out the same of it, and a block that ends before it
strikes out nothing. -/
theorem strikeOut_moved (bs : List (Nat × Nat)) {b : Nat × Nat} {n m : Nat} (t : List α)
    (hb : b.1 + b.2 ≤ n + m) :
    strikeOut (b :: bs.map fun b => (b.1 + m, b.2)) (n + m) t = strikeOut bs n t := by
  induction t generalizing n with
  | nil => rfl
  | cons a t ih =>
    have hkept : ((b :: bs.map fun b => (b.1 + m, b.2)).all
        fun b => n + m < b.1 || b.1 + b.2 ≤ n + m) = bs.all fun b => n < b.1 || b.1 + b.2 ≤ n := by
      have hfirst : (decide (n + m < b.1) || decide (b.1 + b.2 ≤ n + m)) = true := by
        simp [hb]
      rw [List.all_cons, hfirst, Bool.true_and, List.all_map]
      congr 1
      funext b
      simp only [Function.comp_apply]
      congr 1 <;> exact decide_eq_decide.mpr (by omega)
    have hrest := ih (n := n + 1) (by omega)
    rw [Nat.add_right_comm] at hrest
    rw [strikeOut_cons, strikeOut_cons, hkept, hrest]

/-- Striking out a piece that was put in, and others behind it, leaves what striking out the others
did before. -/
theorem strikeOut_insertAt {t piece : List α} {place : Nat} {bs : List (Nat × Nat)}
    (hlen : place ≤ t.length) (hbs : ∀ b ∈ bs, place ≤ b.1) :
    strikeOut ((place, piece.length) :: bs.map fun b => (b.1 + piece.length, b.2)) 0
      (insertAt t place piece) = strikeOut bs 0 t := by
  have hplace : (t.take place).length = place := by
    rw [List.length_take]
    omega
  have hfront : ∀ bs' : List (Nat × Nat), (∀ b ∈ bs', place ≤ b.1) →
      strikeOut bs' 0 (t.take place) = t.take place := by
    intro bs' hbs'
    refine strikeOut_of_before fun b hb => ?_
    have := hbs' b hb
    omega
  have hmoved : ∀ b ∈ (place, piece.length) :: bs.map fun b => (b.1 + piece.length, b.2),
      place ≤ b.1 := by
    refine List.forall_mem_cons.mpr ⟨Nat.le_refl _, fun b hb => ?_⟩
    obtain ⟨b', hb', rfl⟩ := List.mem_map.mp hb
    have := hbs b' hb'
    dsimp only
    omega
  calc strikeOut ((place, piece.length) :: bs.map fun b => (b.1 + piece.length, b.2)) 0
        (insertAt t place piece)
      = t.take place ++ strikeOut bs place (t.drop place) := by
        rw [insertAt, List.append_assoc, strikeOut_append, strikeOut_append, hplace, Nat.zero_add,
          hfront _ hmoved, strikeOut_of_covered List.mem_cons_self (Nat.le_refl _) (Nat.le_refl _),
          strikeOut_moved bs _ (Nat.le_refl _), List.nil_append]
    _ = strikeOut bs 0 (t.take place ++ t.drop place) := by
        rw [strikeOut_append, hplace, Nat.zero_add, hfront bs hbs]
    _ = strikeOut bs 0 t := by rw [List.take_append_drop]

theorem blocks_cons (p : Nat × List α) (ps : List (Nat × List α)) :
    blocks (p :: ps) = (p.1, p.2.length) :: (blocks ps).map fun b => (b.1 + p.2.length, b.2) := by
  unfold blocks
  rw [List.zipIdx_cons', List.map_cons, List.map_map, List.map_map]
  refine congrArg _ (List.map_congr_left fun x _ => ?_)
  simp only [Function.comp_apply, Prod.map_fst, Prod.map_snd, id_eq, List.take_succ_cons,
    List.map_cons, List.sum_cons, Prod.mk.injEq, and_true]
  omega

theorem le_of_mem_blocks {ps : List (Nat × List α)} {n : Nat} (hps : ∀ p ∈ ps, n ≤ p.1)
    {b : Nat × Nat} (hb : b ∈ blocks ps) : n ≤ b.1 := by
  obtain ⟨x, hx, rfl⟩ := List.mem_map.mp hb
  have := hps x.1 (List.fst_mem_of_mem_zipIdx hx)
  dsimp only
  omega

theorem strikeOut_insertFromLast {source : List α} {ps : List (Nat × List α)}
    (hsorted : ps.Pairwise fun p q => p.1 ≤ q.1) (hin : ∀ p ∈ ps, p.1 ≤ source.length) :
    strikeOut (blocks ps) 0 (insertFromLast source ps) = source := by
  induction ps with
  | nil => exact strikeOut_of_before (by simp [blocks])
  | cons p ps ih =>
    obtain ⟨hlater, hsorted⟩ := List.pairwise_cons.mp hsorted
    obtain ⟨hp, hin⟩ := List.forall_mem_cons.mp hin
    have hlen := Nat.le_trans hp (length_le_insertFromLast source ps)
    rw [blocks_cons, insertFromLast_cons,
      strikeOut_insertAt hlen fun b hb => le_of_mem_blocks hlater hb, ih hsorted hin]

/-! ## The pieces of comments -/

theorem getElem?_pieces (ending : Text) {ds : List Declaration} {cs : List Text} {i : Nat}
    {d : Declaration} {c : Text} (hd : ds[i]? = some d) (hc : cs[i]? = some c) :
    (pieces ending ds cs)[i]? = some (d.range.start, c ++ ending) := by
  rw [pieces, List.getElem?_zipWith, hd, hc]

theorem exists_start_of_mem_pieces {ending : Text} {ds : List Declaration} {cs : List Text}
    {p : Nat × Text} (h : p ∈ pieces ending ds cs) : ∃ d ∈ ds, p.1 = d.range.start := by
  rw [pieces] at h
  obtain ⟨i, hi, rfl⟩ := List.mem_iff_getElem.mp h
  rw [List.getElem_zipWith]
  exact ⟨_, List.getElem_mem _, rfl⟩

/-- The pieces lie where the declarations start, in their order. -/
theorem pairwise_pieces (ending : Text) {ds : List Declaration} (cs : List Text)
    (h : ds.Pairwise fun a b => a.range.start ≤ b.range.start) :
    (pieces ending ds cs).Pairwise fun p q => p.1 ≤ q.1 := by
  induction ds generalizing cs with
  | nil => exact .nil
  | cons d ds ih =>
    obtain ⟨hlater, hrest⟩ := List.pairwise_cons.mp h
    cases cs with
    | nil => exact .nil
    | cons c cs =>
      refine .cons (fun p hp => ?_) (ih cs hrest)
      obtain ⟨d', hd', hstart⟩ := exists_start_of_mem_pieces hp
      rw [hstart]
      exact hlater d' hd'

theorem start_le_of_mem_pieces {source ending : Text} {ds : List Declaration} {cs : List Text}
    (hin : ∀ d ∈ ds, d.range.stop ≤ source.length) {p : Nat × Text}
    (h : p ∈ pieces ending ds cs) : p.1 ≤ source.length := by
  obtain ⟨d, hd, hstart⟩ := exists_start_of_mem_pieces h
  have hstop := hin d hd
  have hle := d.range.start_le_stop
  omega

theorem map_fst_pieces (ending : Text) {ds : List Declaration} {cs : List Text}
    (hlen : ds.length ≤ cs.length) :
    (pieces ending ds cs).map Prod.fst = ds.map fun d => d.range.start := by
  rw [pieces, ← List.map_uncurry_zip_eq_zipWith, List.map_map]
  conv => rhs; rw [← List.map_fst_zip hlen, List.map_map]
  rfl

theorem map_snd_pieces (ending : Text) {ds : List Declaration} {cs : List Text}
    (hlen : cs.length ≤ ds.length) :
    (pieces ending ds cs).map Prod.snd = cs.map fun c => c ++ ending := by
  rw [pieces, ← List.map_uncurry_zip_eq_zipWith, List.map_map]
  conv => rhs; rw [← List.map_snd_zip hlen, List.map_map]
  rfl

theorem map_length_pieces (ending : Text) {ds : List Declaration} {cs : List Text}
    (hlen : cs.length ≤ ds.length) : (pieces ending ds cs).map (fun p => p.2.length) =
      cs.map fun c => c.length + ending.length := by
  have hsnd := congrArg (List.map List.length) (map_snd_pieces ending hlen)
  rw [List.map_map, List.map_map] at hsnd
  refine hsnd.trans (List.map_congr_left fun c _ => ?_)
  exact List.length_append

theorem map_length_take_pieces (ending : Text) {ds : List Declaration} {cs : List Text} (i : Nat)
    (hlen : cs.length ≤ ds.length) : ((pieces ending ds cs).take i).map (fun p => p.2.length) =
      (cs.take i).map fun c => c.length + ending.length := by
  have htake : (pieces ending ds cs).take i = pieces ending (ds.take i) (cs.take i) :=
    List.take_zipWith
  rw [htake, map_length_pieces ending (by simp only [List.length_take]; omega)]

/-- For declarations in ascending order inserting the comments gives what putting them in one by one
does, from the last to the first. Each stands, with its line ending, at the start of its declaration
moved by all that was put in before it, and without them the result is the source. -/
theorem insertComments_from_last (source ending : Text) (ds : List Declaration) (cs : List Text)
    (more : List (Except Failure Text)) (hmono : Declaration.isMonotonic ds = true)
    (hin : ∀ d ∈ ds, d.range.stop ≤ source.length) (hlen : cs.length = ds.length) :
    ∃ out, (insertComments source ds ending (cs.map .ok ++ more)).1 = .ok out ∧
      out = insertFromLast source (pieces ending ds cs) ∧
      (∀ i d c, ds[i]? = some d → cs[i]? = some c → ∃ place,
        place = d.range.start + ((cs.take i).map fun c => c.length + ending.length).sum ∧
        (blocks (pieces ending ds cs))[i]? = some (place, c.length + ending.length) ∧
        c ++ ending <+: out.drop place) ∧
      strikeOut (blocks (pieces ending ds cs)) 0 out = source := by
  have hsorted := pairwise_pieces ending cs (Declaration.isMonotonic_eq_true.mp hmono)
  have hplaces : ∀ p ∈ pieces ending ds cs, p.1 ≤ source.length :=
    fun p hp => start_le_of_mem_pieces hin hp
  refine ⟨insertFromLast source (pieces ending ds cs), ?_, rfl, fun i d c hd hc => ?_,
    strikeOut_insertFromLast hsorted hplaces⟩
  · rw [insertComments_append ending hin hlen, splice_eq_insertFromLast hsorted hplaces]
  · have hpiece := getElem?_pieces ending hd hc
    have hmoved := map_length_take_pieces ending i (Nat.le_of_eq hlen)
    refine ⟨_, rfl, ?_, ?_⟩
    · rw [blocks, List.getElem?_map, List.getElem?_zipIdx, hpiece]
      simp only [Option.map_some, Nat.zero_add, hmoved, List.length_append]
    · rw [← hmoved]
      exact prefix_drop_insertFromLast hsorted hplaces hpiece

/-- Three ranges of a source of four code points: two start together, and all overlap. -/
def overlapping : List Declaration :=
  [⟨"f", .function, 1, 3, by decide⟩, ⟨"g", .function, 1, 4, by decide⟩,
    ⟨"h", .method, 2, 4, by decide⟩]

/-- An empty comment between two others, and a failure behind them that is not come to. -/
theorem overlapping_from_last :
    Declaration.isMonotonic overlapping = true ∧
    (∀ d ∈ overlapping, d.range.stop ≤ (Text.ofString "abcd").length) ∧
    (insertComments "abcd" overlapping "\n"
      ((["x", "", "y"] : List Text).map .ok ++ [.error .noSource])).1 = .ok "ax\n\nby\ncd" ∧
    strikeOut [(1, 2), (3, 1), (5, 2)] 0 (Text.ofString "ax\n\nby\ncd") = "abcd" := by
  have hin : ∀ d ∈ overlapping, d.range.stop ≤ (Text.ofString "abcd").length := by decide
  obtain ⟨out, hout, he, -, hstruck⟩ := insertComments_from_last "abcd" "\n" overlapping
    ["x", "", "y"] [.error .noSource] rfl hin rfl
  subst he
  exact ⟨rfl, hin, hout, hstruck⟩

end Insertion

end DartComments
