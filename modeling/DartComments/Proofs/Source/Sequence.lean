import DartComments.Proofs.Source.Declaration
import DartComments.Source.Selection

/-!
# Neighbours and all pairs

The checks of a sequence compare neighbours, but they decide about all pairs of its declarations
(`neighbours_decide_order`). What holds of all pairs passes to every part that is in the same order,
and a slice with a positive step is such a part:

    0 < step → ∃ part, slice xs first last step = .ok part ∧ part.Sublist xs      (slice_sublist)
-/

namespace DartComments

/-! ## Slices -/

namespace Selection

variable {α : Type}

/-- Items at ascending places from `k` on are picked from what stands at `k` and after it. -/
theorem filterMap_getElem?_sublist_drop (xs : List α) {places : List Nat} {k : Nat}
    (hsorted : places.Pairwise (· < ·)) (hk : ∀ p ∈ places, k ≤ p) :
    (places.filterMap (xs[·]?)).Sublist (xs.drop k) := by
  induction places generalizing k with
  | nil => exact List.nil_sublist _
  | cons p places ih =>
    obtain ⟨hp, hsorted⟩ := List.pairwise_cons.mp hsorted
    have hkp : k ≤ p := hk p List.mem_cons_self
    -- The later places lie behind `p`, so their items come from what follows it.
    have hrest : (places.filterMap (xs[·]?)).Sublist (xs.drop (p + 1)) := ih hsorted hp
    refine List.Sublist.trans ?_ (List.drop_sublist_drop_left xs hkp)
    by_cases hlt : p < xs.length
    · rw [List.filterMap_cons_some (List.getElem?_eq_getElem hlt), List.drop_eq_getElem_cons hlt]
      exact hrest.cons_cons _
    · rw [List.filterMap_cons_none (List.getElem?_eq_none (Nat.le_of_not_lt hlt))]
      exact hrest.trans (List.drop_sublist_drop_left xs (Nat.le_succ p))

theorem pairwise_positions {start stop step : Int} (hstart : 0 ≤ start) (hstep : 0 < step) :
    (positions start stop step).Pairwise (· < ·) := by
  refine List.Pairwise.map _ ?_ List.pairwise_lt_range
  intro i j hij
  have hlt : step * (i : Int) < step * (j : Int) := Int.mul_lt_mul_of_pos_left (by omega) hstep
  have hpos : 0 ≤ step * (i : Int) := Int.mul_nonneg (by omega) (by omega)
  omega

theorem clamp_nonneg (n : Nat) (hi bound : Int) : 0 ≤ clamp n 0 hi bound := Int.le_max_left _ _

/-- With a positive step the bounds lie between the two ends of the sequence. -/
theorem slice_of_pos (xs : List α) (first last : Option Int) {step : Option Int}
    (h : 0 < step.getD 1) : slice xs first last step =
      .ok ((positions ((first.map (clamp xs.length 0 xs.length)).getD 0)
        ((last.map (clamp xs.length 0 xs.length)).getD xs.length) (step.getD 1)).filterMap
          (xs[·]?)) := by
  have hne : step.getD 1 ≠ 0 := by omega
  simp only [slice, if_neg hne, if_pos h]

/-- A slice with a positive step is a part of the sequence in the same order. -/
theorem slice_sublist (xs : List α) (first last : Option Int) {step : Option Int}
    (h : 0 < step.getD 1) : ∃ part, slice xs first last step = .ok part ∧ part.Sublist xs := by
  refine ⟨_, slice_of_pos xs first last h, ?_⟩
  have hfirst : 0 ≤ (first.map (clamp xs.length 0 xs.length)).getD 0 := by
    cases first with
    | none => exact Int.le_refl 0
    | some bound => exact clamp_nonneg _ _ _
  exact filterMap_getElem?_sublist_drop xs (pairwise_positions hfirst h) fun _ _ => Nat.zero_le _

end Selection

/-! ## Sequences -/

/-- Does the offset lie in the range? -/
def SourceRange.Covers (r : SourceRange) (k : Nat) : Prop := r.start ≤ k ∧ k < r.stop

namespace Declaration

/-- A part is ascending if the whole is, and free of overlaps if the whole is. -/
structure KeepsOrder (ds part : List Declaration) : Prop where
  isMonotonic : isMonotonic ds = true → isMonotonic part = true
  hasOverlaps : hasOverlaps ds = false → hasOverlaps part = false

theorem keepsOrder_of_sublist {ds part : List Declaration} (h : part.Sublist ds) :
    KeepsOrder ds part where
  isMonotonic hds := isMonotonic_eq_true.mpr ((isMonotonic_eq_true.mp hds).sublist h)
  hasOverlaps hds := hasOverlaps_eq_false.mpr ((hasOverlaps_eq_false.mp hds).sublist h)

/-- Without overlaps no offset lies in two ranges. -/
theorem covers_one_of_hasOverlaps_eq_false {ds : List Declaration} (h : hasOverlaps ds = false)
    {i j : Fin ds.length} (hij : i ≠ j) {k : Nat} (hi : ds[i].range.Covers k) :
    ¬ ds[j].range.Covers k := by
  intro hj
  have hpairs := List.pairwise_iff_get.mp (hasOverlaps_eq_false.mp h)
  obtain ⟨hstart, hstop⟩ := hi
  obtain ⟨hstart', hstop'⟩ := hj
  rcases Nat.lt_or_gt_of_ne (Fin.val_ne_of_ne hij) with hlt | hgt
  · have hapart : ds[i].range.stop ≤ ds[j].range.start := hpairs i j hlt
    omega
  · have hapart : ds[j].range.stop ≤ ds[i].range.start := hpairs j i hgt
    omega

/-- **Neighbours decide.** A sequence passes the check for ascending starts exactly when all its
starts ascend, and the check for overlaps exactly when no declaration ends after a later one starts;
then it is ascending too, and no two of its ranges share an offset. Both pass to every part in the
same order, and so to every slice with a positive step. -/
theorem neighbours_decide_order (ds : List Declaration) :
    (isMonotonic ds = true ↔
      ∀ i j : Fin ds.length, i < j → ds[i].range.start ≤ ds[j].range.start) ∧
    (hasOverlaps ds = false ↔
      ∀ i j : Fin ds.length, i < j → ds[i].range.stop ≤ ds[j].range.start) ∧
    (hasOverlaps ds = false → isMonotonic ds = true ∧
      ∀ i j : Fin ds.length, i ≠ j → ∀ k, ds[i].range.Covers k → ¬ ds[j].range.Covers k) ∧
    (∀ part : List Declaration, part.Sublist ds → KeepsOrder ds part) ∧
    ∀ first last step : Option Int, 0 < step.getD 1 →
      ∃ part, Selection.slice ds first last step = .ok part ∧ part.Sublist ds ∧
        KeepsOrder ds part := by
  refine ⟨isMonotonic_eq_true.trans List.pairwise_iff_get,
    hasOverlaps_eq_false.trans List.pairwise_iff_get, fun h => ?_,
    fun _ => keepsOrder_of_sublist, fun first last step hstep => ?_⟩
  · exact ⟨isMonotonic_of_hasOverlaps_eq_false h,
      fun _ _ hij _ => covers_one_of_hasOverlaps_eq_false h hij⟩
  · obtain ⟨part, hslice, hpart⟩ := Selection.slice_sublist ds first last hstep
    exact ⟨part, hslice, hpart, keepsOrder_of_sublist hpart⟩

end Declaration

end DartComments
