import DartComments.Source.Declaration
import Mathlib.Data.List.Pairwise

/-!
# Sequences of declarations

The two checks compare neighbours only. For ranges, which start no later than they end, neighbours
that do not overlap are enough: then no declaration starts before any earlier one ends.
-/

namespace DartComments

namespace Declaration

/-- Without overlaps every declaration ends before all later ones start. -/
theorem hasOverlaps_eq_false {ds : List Declaration} :
    hasOverlaps ds = false ↔ ds.Pairwise fun a b => a.range.stop ≤ b.range.start := by
  induction ds with
  | nil => simp [hasOverlaps]
  | cons a ds ih =>
    cases ds with
    | nil => simp [hasOverlaps]
    | cons b ds =>
      -- A range in between starts no later than it ends, so the order passes on over it.
      have htrans : IsTrans Declaration fun a b => a.range.stop ≤ b.range.start :=
        ⟨fun a b c hab hbc => Nat.le_trans hab (Nat.le_trans b.range.start_le_stop hbc)⟩
      rw [hasOverlaps, Bool.or_eq_false_iff, ih, List.pairwise_cons_cons_iff_of_trans,
        decide_eq_false_iff_not, Nat.not_lt]

/-- In an ascending sequence every declaration starts no later than all that come after it. -/
theorem isMonotonic_eq_true {ds : List Declaration} :
    isMonotonic ds = true ↔ ds.Pairwise fun a b => a.range.start ≤ b.range.start := by
  induction ds with
  | nil => simp [isMonotonic]
  | cons a ds ih =>
    cases ds with
    | nil => simp [isMonotonic]
    | cons b ds =>
      have htrans : IsTrans Declaration fun a b => a.range.start ≤ b.range.start :=
        ⟨fun _ _ _ hab hbc => Nat.le_trans hab hbc⟩
      rw [isMonotonic, Bool.and_eq_true, decide_eq_true_eq, ih,
        List.pairwise_cons_cons_iff_of_trans]

/-- Declarations that do not overlap are in order. -/
theorem isMonotonic_of_hasOverlaps_eq_false {ds : List Declaration} (h : hasOverlaps ds = false) :
    isMonotonic ds = true := by
  refine isMonotonic_eq_true.mpr ((hasOverlaps_eq_false.mp h).imp fun {a} {b} hab => ?_)
  have := a.range.start_le_stop
  omega

end Declaration

end DartComments
