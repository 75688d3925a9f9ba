import DartComments.Proofs.Comment.Placement
import Mathlib.Data.List.Nodup

/-!
# Declarations in any order

The cursor goes from place to place as the declarations come, forwards or back. What lies between is
copied on the way forwards, and what it goes back over is copied once more later on. So nothing of
the source is lost, the comments come in their order, and each code point of the source stands in
the result once, and once more for each time that the cursor goes back over it:

    (splice source 0 ps).length =
      source.length + what was put in + what the cursor went back          (length_splice)

The result is as long as the source and what was put in only when the cursor never goes back.
-/

namespace DartComments

namespace Insertion

variable {α β : Type}

/-- The steps of the cursor, from where it stands to each of the places in turn. -/
def steps (cursor : Nat) (places : List Nat) : List (Nat × Nat) := (cursor :: places).zip places

/-- How far the cursor goes back in all. -/
def goneBack (cursor : Nat) (places : List Nat) : Nat :=
  ((steps cursor places).map fun s => s.1 - s.2).sum

/-- How many times the cursor goes back over position `j`. -/
def timesBackOver (j cursor : Nat) (places : List Nat) : Nat :=
  (steps cursor places).countP fun s => s.2 ≤ j && j < s.1

/-- Parts stand in a text, each whole and one after the other. -/
inductive InOrder : List (List α) → List α → Prop where
  | nil (t : List α) : InOrder [] t
  | cons (gap part : List α) {parts : List (List α)} {t : List α} (rest : InOrder parts t) :
    InOrder (part :: parts) (gap ++ part ++ t)

/-- A result with the origin of each of its items: the number of the item of the source that it is a
copy of, or nothing when it was put in. -/
structure Traced (source inserted out : List α) (trace : List (α × Option Nat)) : Prop where
  result : trace.map Prod.fst = out
  copied : ∀ a j, (a, some j) ∈ trace → source[j]? = some a
  inserted : (trace.filter fun x => x.2.isNone).map Prod.fst = inserted

theorem steps_cons (cursor place : Nat) (places : List Nat) :
    steps cursor (place :: places) = (cursor, place) :: steps place places :=
  rfl

theorem goneBack_cons (cursor place : Nat) (places : List Nat) :
    goneBack cursor (place :: places) = cursor - place + goneBack place places := by
  rw [goneBack, steps_cons, List.map_cons, List.sum_cons]
  rfl

theorem timesBackOver_cons (j cursor place : Nat) (places : List Nat) :
    timesBackOver j cursor (place :: places) =
      timesBackOver j place places + if place ≤ j ∧ j < cursor then 1 else 0 := by
  rw [timesBackOver, steps_cons, List.countP_cons]
  simp only [Bool.and_eq_true, decide_eq_true_eq]
  rfl

/-! ## What the result holds -/

/-- What lies behind the cursor is not lost, wherever it goes. -/
theorem drop_sublist_splice (source : List α) (cursor : Nat) (ps : List (Nat × List α)) :
    (source.drop cursor).Sublist (splice source cursor ps) := by
  induction ps generalizing cursor with
  | nil => exact List.Sublist.refl _
  | cons p ps ih =>
    obtain ⟨place, piece⟩ := p
    have hgap : (source.drop cursor).Sublist
        ((source.take place).drop cursor ++ source.drop place) := by
      by_cases h : cursor ≤ place
      · have hsplit : (source.take place).drop cursor ++ source.drop place =
            source.drop cursor := by
          conv => rhs; rw [← List.take_append_drop (place - cursor) (source.drop cursor)]
          rw [List.drop_take, List.drop_drop, Nat.add_sub_cancel' h]
        rw [hsplit]
      · have hle : place ≤ cursor := by omega
        exact (List.drop_sublist_drop_left source hle).trans (List.sublist_append_right _ _)
    have hrest : (source.drop place).Sublist (piece ++ splice source place ps) :=
      (ih place).trans (List.sublist_append_right piece _)
    rw [splice, List.append_assoc]
    exact hgap.trans ((List.Sublist.refl _).append hrest)

/-- The pieces stand in the result in their order. -/
theorem inOrder_splice (source : List α) (cursor : Nat) (ps : List (Nat × List α)) :
    InOrder (ps.map Prod.snd) (splice source cursor ps) := by
  induction ps generalizing cursor with
  | nil => exact .nil _
  | cons p ps ih => exact .cons _ p.2 (ih p.1)

/-- The result is longer than the source by the pieces and by what the cursor goes back. -/
theorem length_splice {source : List α} {ps : List (Nat × List α)} {cursor : Nat}
    (hcursor : cursor ≤ source.length) (hin : ∀ p ∈ ps, p.1 ≤ source.length) :
    (splice source cursor ps).length + cursor = source.length +
      (ps.map fun p => p.2.length).sum + goneBack cursor (ps.map Prod.fst) := by
  induction ps generalizing cursor with
  | nil =>
    rw [splice, List.length_drop]
    simp only [List.map_nil, List.sum_nil, goneBack, steps, List.zip_nil_right]
    omega
  | cons p ps ih =>
    obtain ⟨place, piece⟩ := p
    obtain ⟨hplace, hin⟩ := List.forall_mem_cons.mp hin
    dsimp only at hplace
    have hrest := ih hplace hin
    rw [splice, List.map_cons, List.map_cons, List.sum_cons, goneBack_cons]
    simp only [List.length_append, List.length_drop, List.length_take]
    omega

/-! ## How often each item is copied -/

theorem splice_map (f : α → β) (source : List α) (cursor : Nat) (ps : List (Nat × List α)) :
    (splice source cursor ps).map f =
      splice (source.map f) cursor (ps.map fun p => (p.1, p.2.map f)) := by
  induction ps generalizing cursor with
  | nil => exact List.map_drop
  | cons p ps ih =>
    rw [splice, List.map_append, List.map_append, ih, List.map_drop, List.map_take]
    rfl

/-- On the way forwards each item is copied once. -/
theorem count_gap {n j : Nat} (hj : j < n) (cursor place : Nat) :
    ((((List.range n).map some).take place).drop cursor).count (some j) =
      if cursor ≤ j ∧ j < place then 1 else 0 := by
  have hnodup : (((List.range n).map some).take place).drop cursor |>.Nodup :=
    ((List.nodup_range.map fun _ _ h => Option.some.inj h).sublist (List.take_sublist _ _)).sublist
      (List.drop_sublist _ _)
  have hmem : some j ∈ (((List.range n).map some).take place).drop cursor ↔
      cursor ≤ j ∧ j < place := by
    rw [← List.map_take, ← List.map_drop, List.take_range, List.range_eq_range', List.drop_range']
    simp only [List.mem_map, Option.some.injEq, exists_eq_right, List.mem_range'_1]
    omega
  rw [hnodup.count]
  simp only [hmem]

/-- An item behind the cursor is copied once, and each item once more for each time that the cursor
goes back over it. -/
theorem count_splice_range {n j : Nat} (hj : j < n) {cursor : Nat}
    {qs : List (Nat × List (Option Nat))} (hqs : ∀ q ∈ qs, some j ∉ q.2) :
    (splice ((List.range n).map some) cursor qs).count (some j) =
      (if cursor ≤ j then 1 else 0) + timesBackOver j cursor (qs.map Prod.fst) := by
  induction qs generalizing cursor with
  | nil =>
    have hgap := count_gap hj cursor n
    rw [List.take_of_length_le (by simp)] at hgap
    rw [splice, hgap]
    simp [timesBackOver, steps, hj]
  | cons q qs ih =>
    obtain ⟨place, piece⟩ := q
    obtain ⟨hpiece, hqs⟩ := List.forall_mem_cons.mp hqs
    rw [splice, List.count_append, List.count_append, count_gap hj, List.count_eq_zero.mpr hpiece,
      ih hqs, List.map_cons, timesBackOver_cons]
    dsimp only
    split <;> split <;> split <;> split <;> omega

/-! ## The trace of a result -/

/-- A source with the number of each of its items. -/
def numbered (source : List α) : List (α × Option Nat) :=
  source.zipIdx.map fun x => (x.1, some x.2)

/-- Pieces whose items have no number. -/
def unnumbered (ps : List (Nat × List α)) : List (Nat × List (α × Option Nat)) :=
  ps.map fun p => (p.1, p.2.map fun a => (a, none))

theorem filter_isNone_of_subset {source : List α} {t : List (α × Option Nat)}
    (h : t ⊆ numbered source) : t.filter (fun x => x.2.isNone) = [] := by
  refine List.filter_eq_nil_iff.mpr fun x hx => ?_
  obtain ⟨y, -, rfl⟩ := List.mem_map.mp (h hx)
  simp

/-- What has no number is what was put in. -/
theorem filter_isNone_splice (source : List α) (cursor : Nat) (ps : List (Nat × List α)) :
    ((splice (numbered source) cursor (unnumbered ps)).filter fun x => x.2.isNone).map Prod.fst =
      ps.flatMap Prod.snd := by
  induction ps generalizing cursor with
  | nil =>
    have hrest : ((numbered source).drop cursor).filter (fun x => x.2.isNone) = [] :=
      filter_isNone_of_subset (List.drop_subset cursor (numbered source))
    show (((numbered source).drop cursor).filter _).map Prod.fst = []
    rw [hrest, List.map_nil]
  | cons p ps ih =>
    have hgap : (((numbered source).take p.1).drop cursor).filter (fun x => x.2.isNone) = [] :=
      filter_isNone_of_subset fun x hx => List.mem_of_mem_take (List.mem_of_mem_drop hx)
    have hpiece : (p.2.map fun a => (a, (none : Option Nat))).filter (fun x => x.2.isNone) =
        p.2.map fun a => (a, none) := List.filter_eq_self.mpr (by simp)
    have hfst : (p.2.map fun a => (a, (none : Option Nat))).map Prod.fst = p.2 := by
      rw [List.map_map]
      exact List.map_id p.2
    show ((((numbered source).take p.1).drop cursor ++ (p.2.map fun a => (a, none)) ++
      splice (numbered source) p.1 (unnumbered ps)).filter _).map Prod.fst = _
    rw [List.filter_append, List.filter_append, hgap, hpiece, List.nil_append, List.map_append,
      hfst, ih, List.flatMap_cons]

theorem traced_splice (source : List α) (ps : List (Nat × List α)) :
    Traced source (ps.flatMap Prod.snd) (splice source 0 ps)
      (splice (numbered source) 0 (unnumbered ps)) := by
  have hsource : (numbered source).map Prod.fst = source := by
    rw [numbered, List.map_map]
    exact List.zipIdx_map_fst 0 source
  have hps : (unnumbered ps).map (fun p => (p.1, p.2.map Prod.fst)) = ps := by
    rw [unnumbered, List.map_map]
    refine (List.map_congr_left fun p _ => ?_).trans (List.map_id ps)
    rw [Function.comp_apply, List.map_map]
    exact congrArg (Prod.mk p.1) (List.map_id p.2)
  refine ⟨?_, fun a j h => ?_, filter_isNone_splice source 0 ps⟩
  · rw [splice_map, hsource, hps]
  · rcases mem_of_mem_splice h with h | ⟨q, hq, h⟩
    · obtain ⟨x, hx, he⟩ := List.mem_map.mp h
      cases he
      exact List.mk_mem_zipIdx_iff_getElem?.mp hx
    · obtain ⟨p, -, rfl⟩ := List.mem_map.mp hq
      obtain ⟨a', -, he⟩ := List.mem_map.mp h
      cases he

/-- In the trace each number of the source stands once, and once more for each time that the cursor
goes back over it. -/
theorem count_trace {source : List α} (ps : List (Nat × List α)) {j : Nat}
    (hj : j < source.length) :
    ((splice (numbered source) 0 (unnumbered ps)).map Prod.snd).count (some j) =
      1 + timesBackOver j 0 (ps.map Prod.fst) := by
  have hsource : (numbered source).map Prod.snd = (List.range source.length).map some := by
    rw [numbered, List.map_map, List.range_eq_range', ← List.zipIdx_map_snd, List.map_map]
    rfl
  have hplaces : ((unnumbered ps).map fun p => (p.1, p.2.map Prod.snd)).map Prod.fst =
      ps.map Prod.fst := by
    rw [unnumbered, List.map_map, List.map_map]
    rfl
  rw [splice_map, hsource, count_splice_range hj, hplaces, if_pos (Nat.zero_le j)]
  intro q hq
  obtain ⟨p, hp, rfl⟩ := List.mem_map.mp hq
  obtain ⟨p', -, rfl⟩ := List.mem_map.mp hp
  simp

/-! ## Comments in any order -/

/-- The cursor never goes back when the declarations are in ascending order. -/
theorem goneBack_eq_zero_iff (ds : List Declaration) :
    goneBack 0 (ds.map fun d => d.range.start) = 0 ↔ Declaration.isMonotonic ds = true := by
  have key : ∀ (ds : List Declaration) (d : Declaration),
      goneBack d.range.start (ds.map fun d => d.range.start) = 0 ↔
        Declaration.isMonotonic (d :: ds) = true := by
    intro ds
    induction ds with
    | nil =>
      intro d
      exact iff_of_true rfl rfl
    | cons e ds ih =>
      intro d
      rw [List.map_cons, goneBack_cons, Declaration.isMonotonic, Bool.and_eq_true,
        decide_eq_true_eq, ← ih e]
      omega
  cases ds with
  | nil => exact iff_of_true rfl rfl
  | cons d ds =>
    rw [← key ds d, List.map_cons, goneBack_cons]
    omega

/-- In whatever order the declarations come, nothing of the source is lost and the comments stand in
their order, each with its line ending. The result is longer than that by what the cursor goes back,
and each code point of the source stands in it once more for each time that it is gone back over. -/
theorem insertComments_any_order (source ending : Text) (ds : List Declaration) (cs : List Text)
    (more : List (Except Failure Text)) (hin : ∀ d ∈ ds, d.range.stop ≤ source.length)
    (hlen : cs.length = ds.length) :
    ∃ out, (insertComments source ds ending (cs.map .ok ++ more)).1 = .ok out ∧
      source.Sublist out ∧ InOrder (cs.map fun c => c ++ ending) out ∧
      out.length = source.length + (cs.map fun c => c.length + ending.length).sum +
        goneBack 0 (ds.map fun d => d.range.start) ∧
      (out.length = source.length + (cs.map fun c => c.length + ending.length).sum ↔
        Declaration.isMonotonic ds = true) ∧
      ∃ trace, Traced source (cs.flatMap fun c => c ++ ending) out trace ∧
        ∀ j < source.length, (trace.map Prod.snd).count (some j) =
          1 + timesBackOver j 0 (ds.map fun d => d.range.start) := by
  have hstarts := map_fst_pieces ending (Nat.le_of_eq hlen.symm)
  have hpieces := map_snd_pieces ending (Nat.le_of_eq hlen)
  have hlength : (splice source 0 (pieces ending ds cs)).length = source.length +
      (cs.map fun c => c.length + ending.length).sum +
        goneBack 0 (ds.map fun d => d.range.start) := by
    have hplaces : ∀ p ∈ pieces ending ds cs, p.1 ≤ source.length :=
      fun p hp => start_le_of_mem_pieces hin hp
    have h := length_splice (Nat.zero_le source.length) hplaces
    rwa [Nat.add_zero, hstarts, map_length_pieces ending (Nat.le_of_eq hlen)] at h
  have hinserted : (pieces ending ds cs).flatMap Prod.snd = cs.flatMap fun c => c ++ ending := by
    rw [List.flatMap_def, hpieces, ← List.flatMap_def]
  refine ⟨splice source 0 (pieces ending ds cs), ?_, drop_sublist_splice source 0 _, ?_, hlength,
    ?_, splice (numbered source) 0 (unnumbered (pieces ending ds cs)), ?_, fun j hj => ?_⟩
  · rw [insertComments_append ending hin hlen]
  · rw [← hpieces]
    exact inOrder_splice source 0 _
  · rw [← goneBack_eq_zero_iff, hlength]
    omega
  · rw [← hinserted]
    exact traced_splice source _
  · rw [← hstarts]
    exact count_trace _ hj

/-- Four ranges of a source of four code points that go back twice. -/
def zigzag : List Declaration :=
  [⟨"f", .function, 2, 3, by decide⟩, ⟨"g", .function, 0, 1, by decide⟩,
    ⟨"h", .function, 3, 4, by decide⟩, ⟨"i", .function, 1, 2, by decide⟩]

/-- Going back from 2 to 0 and from 3 to 1 copies four code points once more. -/
theorem zigzag_any_order :
    (∀ d ∈ zigzag, d.range.stop ≤ (Text.ofString "abcd").length) ∧
    (insertComments "abcd" zigzag [] ((["x", "y", "z", "w"] : List Text).map .ok)).1 =
      .ok "abxyabczwbcd" ∧
    (Text.ofString "abcd").Sublist "abxyabczwbcd" ∧ goneBack 0 [2, 0, 3, 1] = 4 ∧
    ∃ trace, Traced (Text.ofString "abcd") "xyzw" "abxyabczwbcd" trace ∧
      (trace.map Prod.snd).count (some 1) = 3 := by
  have hin : ∀ d ∈ zigzag, d.range.stop ≤ (Text.ofString "abcd").length := by decide
  obtain ⟨out, hout, hsub, -, -, -, trace, htrace, hcount⟩ :=
    insertComments_any_order "abcd" [] zigzag ["x", "y", "z", "w"] [] hin rfl
  have hresult : out = "abxyabczwbcd" := Except.ok.inj (hout.symm.trans rfl)
  subst hresult
  exact ⟨hin, hout, hsub, rfl, trace, htrace, hcount 1 (by decide)⟩

end Insertion

end DartComments
