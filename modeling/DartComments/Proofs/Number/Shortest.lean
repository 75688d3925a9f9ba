import DartComments.Proofs.Number.Rounding

/-!
# The shortest decimal rounds to its number

`shortest m e` is looked for on decimal grids of one digit, two digits, up to seventeen, and what is
found lies in the interval that rounds to `m * 2 ^ e`. It is always found: the grid of seventeen
digits is finer than the interval is wide, so one of the two neighbours of the value on it is inside
(`shortest_rounds`).
-/

namespace DartComments

namespace Double

/-! ## Comparisons -/

theorem zpow_mul_pow_toNat_neg {b : ℚ} (hb : b ≠ 0) (p : Int) :
    b ^ p * b ^ (-p).toNat = b ^ p.toNat := by
  rw [← zpow_natCast, ← zpow_natCast, ← zpow_add₀ hb]
  congr 1
  omega

/-- Decimals are compared with numbers as rationals. -/
theorem compareDecimal_eq (a : Nat) (p : Int) (b : Nat) (q : Int) :
    compareDecimal a p b q = compare ((a : ℚ) * 10 ^ p) ((b : ℚ) * 2 ^ q) := by
  have hten := zpow_mul_pow_toNat_neg (b := 10) (by norm_num) p
  have htwo := zpow_mul_pow_toNat_neg (b := 2) (by norm_num) q
  generalize hx : (a : ℚ) * 10 ^ p = x
  generalize hy : (b : ℚ) * 2 ^ q = y
  have hpos : (0 : ℚ) < 10 ^ (-p).toNat * 2 ^ (-q).toNat := by positivity
  have hleft : ((a * Nat.pow 10 p.toNat * Nat.pow 2 (-q).toNat : Nat) : ℚ) =
      x * (10 ^ (-p).toNat * 2 ^ (-q).toNat) := by
    rw [← hx, Nat.pow_eq, Nat.pow_eq]
    push_cast
    rw [← hten]
    ring
  have hright : ((b * Nat.pow 2 q.toNat * Nat.pow 10 (-p).toNat : Nat) : ℚ) =
      y * (10 ^ (-p).toNat * 2 ^ (-q).toNat) := by
    rw [← hy, Nat.pow_eq, Nat.pow_eq]
    push_cast
    rw [← htwo]
    ring
  rw [compareDecimal]
  generalize a * Nat.pow 10 p.toNat * Nat.pow 2 (-q).toNat = left at hleft
  generalize b * Nat.pow 2 q.toNat * Nat.pow 10 (-p).toNat = right at hright
  rcases lt_trichotomy x y with hlt | heq | hgt
  · have hnat : (left : ℚ) < right := by
      rw [hleft, hright]
      exact mul_lt_mul_of_pos_right hlt hpos
    rw [compare_lt_iff_lt.mpr hlt, compare_lt_iff_lt.mpr (by exact_mod_cast hnat)]
  · have hnat : (left : ℚ) = right := by rw [hleft, hright, heq]
    rw [compare_eq_iff_eq.mpr heq, compare_eq_iff_eq.mpr (by exact_mod_cast hnat)]
  · have hnat : (right : ℚ) < left := by
      rw [hleft, hright]
      exact mul_lt_mul_of_pos_right hgt hpos
    rw [compare_gt_iff_gt.mpr hgt, compare_gt_iff_gt.mpr (by exact_mod_cast hnat)]

/-- The test against the interval is exact. -/
theorem roundsTo_iff {m : Nat} {e : Int} {d : Nat} {p : Int} :
    roundsTo m e d p = true ↔ Rounds m e ((d : ℚ) * 10 ^ p) := by
  have hrounds : Rounds m e ((d : ℚ) * 10 ^ p) ↔ _ ∧ _ :=
    ⟨fun h => ⟨h.lower, h.upper⟩, fun h => ⟨h.1, h.2⟩⟩
  rw [hrounds, roundsTo]
  dsimp only
  rw [Bool.and_eq_true, compareDecimal_eq, compareDecimal_eq]
  generalize ((interval m e).1 : ℚ) * 2 ^ (e - 2) = lo
  generalize ((interval m e).2 : ℚ) * 2 ^ (e - 2) = hi
  generalize (d : ℚ) * 10 ^ p = v
  refine and_congr ?_ ?_
  · rcases lt_trichotomy v lo with hlt | heq | hgt
    · rw [compare_lt_iff_lt.mpr hlt]
      simp [hlt.ne', hlt.le]
    · rw [compare_eq_iff_eq.mpr heq]
      simp [heq]
    · rw [compare_gt_iff_gt.mpr hgt]
      simp [hgt]
  · rcases lt_trichotomy v hi with hlt | heq | hgt
    · rw [compare_lt_iff_lt.mpr hlt]
      simp [hlt]
    · rw [compare_eq_iff_eq.mpr heq]
      simp [heq]
    · rw [compare_gt_iff_gt.mpr hgt]
      simp [hgt.ne', hgt.le]

/-! ## Seventeen digits -/

/-- Powers of ten below powers of two, for exponents that are not negative. -/
theorem ten_pow_le_two_pow {j x : Nat} (h : 10 * j ≤ 3 * x) : (10 : ℚ) ^ j ≤ 2 ^ x := by
  refine le_of_pow_le_pow_left₀ (n := 10) (by norm_num) (by positivity) ?_
  calc ((10 : ℚ) ^ j) ^ 10 = 10 ^ (10 * j) := by rw [← pow_mul, mul_comm]
    _ ≤ 10 ^ (3 * x) := pow_le_pow_right₀ (by norm_num) h
    _ = (10 ^ 3) ^ x := by rw [pow_mul]
    _ ≤ (2 ^ 10) ^ x := pow_le_pow_left₀ (by norm_num) (by norm_num) x
    _ = (2 ^ x) ^ 10 := by rw [← pow_mul, ← pow_mul, mul_comm]

/-- Powers of two below powers of ten. -/
theorem two_pow_le_ten_pow {y z : Nat} (h : 28 * y ≤ 93 * z) : (2 : ℚ) ^ y ≤ 10 ^ z := by
  refine le_of_pow_le_pow_left₀ (n := 93) (by norm_num) (by positivity) ?_
  calc ((2 : ℚ) ^ y) ^ 93 = (2 ^ 93) ^ y := by rw [← pow_mul, ← pow_mul, mul_comm]
    _ ≤ (10 ^ 28) ^ y := pow_le_pow_left₀ (by norm_num) (by norm_num) y
    _ = 10 ^ (28 * y) := by rw [pow_mul]
    _ ≤ 10 ^ (93 * z) := pow_le_pow_right₀ (by norm_num) h
    _ = (10 ^ z) ^ 93 := by rw [← pow_mul, mul_comm]

/-- The first guess of the number of places is at most one too great. -/
theorem guess_places {x k : Int} (hk : k = x * 30103 / 100000) (hx : x ≤ 1067) (hx' : -10000 ≤ x) :
    (10 : ℚ) ^ (k - 1) ≤ 2 ^ x := by
  have hfloor : k * 100000 ≤ x * 30103 := by omega
  have hfloor' : x * 30103 < (k + 1) * 100000 := by omega
  by_cases hsign : 0 ≤ x
  · obtain ⟨n, rfl⟩ := Int.eq_ofNat_of_zero_le hsign
    by_cases hpos : 0 ≤ k - 1
    · obtain ⟨j, hj⟩ := Int.eq_ofNat_of_zero_le hpos
      rw [hj, zpow_natCast, zpow_natCast]
      exact ten_pow_le_two_pow (by omega)
    · calc (10 : ℚ) ^ (k - 1) ≤ 1 := zpow_le_one_of_nonpos₀ (by norm_num) (by omega)
        _ ≤ 2 ^ (n : Int) := one_le_zpow₀ (by norm_num) (by omega)
  · obtain ⟨y, hy⟩ : ∃ y : Nat, x = -(y : Int) := ⟨(-x).toNat, by omega⟩
    obtain ⟨z, hz⟩ : ∃ z : Nat, k - 1 = -(z : Int) := ⟨(1 - k).toNat, by omega⟩
    rw [hy, hz, zpow_neg, zpow_neg, zpow_natCast, zpow_natCast]
    exact inv_anti₀ (by positivity) (two_pow_le_ten_pow (by omega))

/-- The first of the places of a number is not beyond its first digit. -/
theorem ten_zpow_places_le {m : Nat} {e : Int} (hfits : Fits m e) (hm : 0 < m) :
    (10 : ℚ) ^ (places m e - 1) ≤ m * 2 ^ e := by
  have hlog : (2 : ℚ) ^ ((m.log2 : Int) + e) ≤ m * 2 ^ e := by
    rw [zpow_add₀ (by norm_num), zpow_natCast]
    refine mul_le_mul_of_nonneg_right ?_ (two_zpow_pos e).le
    exact_mod_cast Nat.log2_self_le hm.ne'
  have hbits : m.log2 < 53 := (Nat.log2_lt hm.ne').mpr hfits.mantissa_lt
  have hgreatest : e ≤ 971 := hfits.exponent_le
  have hleast : -1074 ≤ e := hfits.le_exponent
  have hguess := guess_places (x := (m.log2 : Int) + e) rfl (by omega) (by omega)
  rw [places]
  generalize ((m.log2 : Int) + e) * 30103 / 100000 = k at hguess
  have hone : ∀ j, compareDecimal 1 j m e = .gt ↔ (m : ℚ) * 2 ^ e < 10 ^ j := by
    intro j
    rw [compareDecimal_eq, compare_gt_iff_gt, Nat.cast_one, one_mul]
  simp only [hone]
  split_ifs with hfirst hsecond
  · exact hguess.trans hlog
  · rw [add_sub_cancel_right]
    exact not_lt.mp hfirst
  · rw [show k + 2 - 1 = k + 1 by ring]
    exact not_lt.mp hsecond

/-- The neighbours of a number on a decimal grid. -/
theorem below_bounds (m : Nat) (e p : Int) :
    (below m e p : ℚ) * 10 ^ p ≤ m * 2 ^ e ∧
      (m : ℚ) * 2 ^ e < ((below m e p + 1 : Nat) : ℚ) * 10 ^ p := by
  have hten := zpow_mul_pow_toNat_neg (b := 10) (by norm_num) p
  have htwo := zpow_mul_pow_toNat_neg (b := 2) (by norm_num) e
  have hpos : (0 : ℚ) < 10 ^ (-p).toNat * 2 ^ (-e).toNat := by positivity
  generalize hnum : m * Nat.pow 2 e.toNat * Nat.pow 10 (-p).toNat = num
  generalize hden : Nat.pow 10 p.toNat * Nat.pow 2 (-e).toNat = den
  have hnum' : (num : ℚ) = m * 2 ^ e * (10 ^ (-p).toNat * 2 ^ (-e).toNat) := by
    rw [← hnum, Nat.pow_eq, Nat.pow_eq]
    push_cast
    rw [← htwo]
    ring
  have hden' : (den : ℚ) = 10 ^ p * (10 ^ (-p).toNat * 2 ^ (-e).toNat) := by
    rw [← hden, Nat.pow_eq, Nat.pow_eq]
    push_cast
    rw [← hten]
    ring
  have hden0 : 0 < den := by
    rw [← hden]
    exact Nat.mul_pos (Nat.pow_pos (by decide)) (Nat.pow_pos (by decide))
  have hbelow : below m e p = num / den := by rw [below, hnum, hden]
  have hlower : (num / den : Nat) * den ≤ num := Nat.div_mul_le_self num den
  have hupper : num < (num / den + 1) * den :=
    (Nat.div_lt_iff_lt_mul hden0).mp (Nat.lt_succ_self _)
  rw [hbelow]
  constructor
  · rw [← mul_le_mul_iff_of_pos_right hpos, ← hnum', mul_assoc, ← hden']
    exact_mod_cast hlower
  · rw [← mul_lt_mul_iff_of_pos_right hpos, ← hnum', mul_assoc, ← hden']
    exact_mod_cast hupper

/-- What is found on a grid rounds to the number. -/
theorem rounds_of_onGrid? {m n d : Nat} {e p : Int} (h : onGrid? m e n = some (d, p)) :
    Rounds m e ((d : ℚ) * 10 ^ p) := by
  rw [← roundsTo_iff]
  unfold onGrid? at h
  dsimp only at h
  split at h
  · next hlow hhigh =>
    cases h
    split
    · exact hhigh
    · exact hlow
  · next hlow _ =>
    cases h
    exact hlow
  · next _ hhigh =>
    cases h
    exact hhigh
  · cases h

/-- One of the neighbours on a grid rounds to the number when the interval is wider than the
grid. -/
theorem exists_onGrid? {m n : Nat} {e : Int} (hm : 0 < m)
    (hwide : (10 : ℚ) ^ (places m e - n) < (1 / 2 + gap m e) * 2 ^ e) :
    ∃ r, onGrid? m e n = some r := by
  obtain ⟨hlow, hhigh⟩ := below_bounds m e (places m e - n)
  have hpos := two_zpow_pos e
  unfold onGrid?
  dsimp only
  generalize places m e - n = p at hlow hhigh hwide
  generalize below m e p = d at hlow hhigh
  push_cast at hhigh
  by_cases hd : (m - gap m e) * 2 ^ e < (d : ℚ) * 10 ^ p
  · have hrounds : roundsTo m e d p = true :=
      roundsTo_iff.mpr (.of_between hm hd (by linarith))
    cases roundsTo m e (d + 1) p <;> simp [hrounds]
  · have hrounds : roundsTo m e (d + 1) p = true := by
      refine roundsTo_iff.mpr (.of_between hm ?_ ?_)
      · have hgap : 0 ≤ gap m e * 2 ^ e := by
          rw [gap]
          split_ifs <;> positivity
        push_cast
        linarith
      · push_cast
        linarith
    cases roundsTo m e d p <;> simp [hrounds]

/-- The grid of seventeen digits is fine enough for every number. -/
theorem seventeen_digits {m : Nat} {e : Int} (hfits : Fits m e) (hm : 0 < m) :
    (10 : ℚ) ^ (places m e - (17 : Nat)) < (1 / 2 + gap m e) * 2 ^ e := by
  have hpos := two_zpow_pos e
  have hgrid : (10 : ℚ) ^ (places m e - (17 : Nat)) * 10 ^ 16 ≤ m * 2 ^ e := by
    refine le_of_eq_of_le ?_ (ten_zpow_places_le hfits hm)
    rw [← zpow_natCast, ← zpow_add₀ (by norm_num)]
    congr 1
    push_cast
    ring
  generalize (10 : ℚ) ^ (places m e - (17 : Nat)) = grid at hgrid
  rw [gap]
  split_ifs with hleast
  · have hm52 : (m : ℚ) = 2 ^ 52 := by exact_mod_cast hleast.1
    rw [hm52] at hgrid
    linarith
  · have hm53 : (m : ℚ) + 1 ≤ 2 ^ 53 := by exact_mod_cast hfits.mantissa_lt
    have hunits : (m : ℚ) * 2 ^ e ≤ (2 ^ 53 - 1) * 2 ^ e :=
      mul_le_mul_of_nonneg_right (by linarith) hpos.le
    linarith

theorem exists_onGrid?_shortest {m : Nat} {e : Int} (hfits : Fits m e) (hm : 0 < m) :
    ∃ n, onGrid? m e n = some (shortest m e) := by
  unfold shortest
  split
  · next r hfound =>
    obtain ⟨n, -, hn⟩ := List.exists_of_findSome?_eq_some hfound
    exact ⟨n, hn⟩
  · next hnone =>
    have hmem : 17 ∈ (List.range 17).map (· + 1) :=
      List.mem_map.mpr ⟨16, List.mem_range.mpr (by decide), rfl⟩
    have hnone' : onGrid? m e 17 = none := List.findSome?_eq_none_iff.mp hnone 17 hmem
    obtain ⟨r, hr⟩ := exists_onGrid? hm (seventeen_digits hfits hm)
    cases hnone'.symm.trans hr

/-- **The shortest decimal reads back.** It lies in the interval that rounds to its number. -/
theorem shortest_rounds {m : Nat} {e : Int} (hfits : Fits m e) (hm : 0 < m) :
    Rounds m e (((shortest m e).1 : ℚ) * 10 ^ (shortest m e).2) := by
  obtain ⟨n, hn⟩ := exists_onGrid?_shortest hfits hm
  exact rounds_of_onGrid? hn

end Double

end DartComments
