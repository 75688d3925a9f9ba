import DartComments.Number.Shortest
import Mathlib.Algebra.Order.Field.Power
import Mathlib.Data.Rat.Cast.Order
import Mathlib.Tactic.FieldSimp
import Mathlib.Tactic.Linarith
import Mathlib.Tactic.Positivity
import Mathlib.Tactic.Ring

/-!
# Rounding to the nearest number

What rounds to `m * 2 ^ e` is an interval of rationals around it (`Rounds`). `ofRatio` and
`ofDecimal` find the number whose interval their argument lies in (`ofRatio_of_rounds`,
`ofDecimal_of_rounds`), and whatever they find is well formed.

The mantissa is the quotient at the exponent where it has 53 bits, rounded to the nearest integer.
Just below a power of two the rounding may reach `2 ^ 53`, which is carried to the next exponent.
-/

namespace DartComments

namespace Double

/-- A mantissa and an exponent that a double-precision number has. -/
structure Fits (m : Nat) (e : Int) : Prop where
  mantissa_lt : m < 2 ^ 53
  le_exponent : minExponent ≤ e
  exponent_le : e ≤ maxExponent
  leading : 2 ^ 52 ≤ m ∨ e = minExponent

/-- A finite number has a mantissa and an exponent that fit. -/
def WellFormed : Double → Prop
  | .finite _ m e => Fits m e
  | _ => True

theorem wellFormed_zero (negative : Bool) : (zero negative).WellFormed :=
  ⟨by norm_num, le_rfl, by decide, .inr rfl⟩

/-! ## The nearest integer -/

/-- The integer nearest to a rational, the even one of two. -/
structure Nearest (k : Nat) (u : ℚ) : Prop where
  lower : (k : ℚ) - 1 / 2 < u ∨ k % 2 = 0 ∧ (k : ℚ) - 1 / 2 = u
  upper : u < (k : ℚ) + 1 / 2 ∨ k % 2 = 0 ∧ u = (k : ℚ) + 1 / 2

theorem Nearest.sub_le {k : Nat} {u : ℚ} (h : Nearest k u) : (k : ℚ) - 1 / 2 ≤ u := by
  rcases h.lower with h | ⟨-, h⟩
  · exact h.le
  · exact h.le

theorem Nearest.le_add {k : Nat} {u : ℚ} (h : Nearest k u) : u ≤ (k : ℚ) + 1 / 2 := by
  rcases h.upper with h | ⟨-, h⟩
  · exact h.le
  · exact h.le

/-- There is one nearest integer. -/
theorem Nearest.eq {k l : Nat} {u : ℚ} (hk : Nearest k u) (hl : Nearest l u) : k = l := by
  have key : ∀ {k l : Nat}, Nearest k u → Nearest l u → k ≤ l := by
    intro k l hk hl
    by_contra hlt
    have hstep : (l : ℚ) + 1 ≤ k := by exact_mod_cast Nat.lt_of_not_le hlt
    -- both are nearest only at the middle, and then both are even
    have hmiddle : (k : ℚ) = l + 1 := by linarith [hk.sub_le, hl.le_add]
    have hsucc : k = l + 1 := by exact_mod_cast hmiddle
    have hk' : k % 2 = 0 := by
      rcases hk.lower with h | ⟨h, -⟩
      · linarith [hl.le_add]
      · exact h
    have hl' : l % 2 = 0 := by
      rcases hl.upper with h | ⟨h, -⟩
      · linarith [hk.sub_le]
      · exact h
    omega
  exact Nat.le_antisymm (key hk hl) (key hl hk)

theorem nearest_divRound {num den : Nat} (hden : 0 < den) :
    Nearest (divRound num den) ((num : ℚ) / den) := by
  have hpos : (0 : ℚ) < den := by exact_mod_cast hden
  have hlt : ((num % den : Nat) : ℚ) < den := by exact_mod_cast Nat.mod_lt num hden
  have hsplit : (num : ℚ) / den = (num / den : Nat) + ((num % den : Nat) : ℚ) / den := by
    rw [div_eq_iff hpos.ne', add_mul, div_mul_cancel₀ _ hpos.ne']
    exact_mod_cast (Nat.div_add_mod' num den).symm
  rw [hsplit]
  generalize hq : num / den = q
  generalize hr : num % den = r at hlt
  have hfrac : 0 ≤ (r : ℚ) / den := by positivity
  have hfrac' : (r : ℚ) / den < 1 := (div_lt_one hpos).mpr hlt
  rw [divRound, hq, hr]
  split_ifs with hless hmore heven
  · have hhalf : (r : ℚ) / den < 1 / 2 := by
      rw [div_lt_iff₀ hpos]
      have : (2 : ℚ) * r < den := by exact_mod_cast hless
      linarith
    exact ⟨.inl (by linarith), .inl (by linarith)⟩
  · have hhalf : 1 / 2 < (r : ℚ) / den := by
      rw [lt_div_iff₀ hpos]
      have : (den : ℚ) < 2 * r := by exact_mod_cast hmore
      linarith
    exact ⟨.inl (by push_cast; linarith), .inl (by push_cast; linarith)⟩
  · have hhalf : (r : ℚ) / den = 1 / 2 := by
      rw [div_eq_iff hpos.ne']
      have : (2 : ℚ) * r = den := by exact_mod_cast (show 2 * r = den by omega)
      linarith
    exact ⟨.inl (by linarith), .inr ⟨heven, by rw [hhalf]⟩⟩
  · have hhalf : (r : ℚ) / den = 1 / 2 := by
      rw [div_eq_iff hpos.ne']
      have : (2 : ℚ) * r = den := by exact_mod_cast (show 2 * r = den by omega)
      linarith
    exact ⟨.inr ⟨by omega, by push_cast; linarith⟩, .inl (by push_cast; linarith)⟩

/-! ## The exponent -/

theorem two_zpow_pos (e : Int) : (0 : ℚ) < 2 ^ e := zpow_pos (by norm_num) e

theorem two_zpow_succ (e : Int) : (2 : ℚ) ^ (e + 1) = 2 * 2 ^ e := by
  rw [zpow_add_one₀ (by norm_num), mul_comm]

theorem scaled_snd_pos (num : Nat) {den : Nat} (hden : 0 < den) (e : Int) :
    0 < (scaled num den e).2 := by
  rw [scaled]
  split_ifs
  · exact Nat.mul_pos hden (Nat.pow_pos (by decide))
  · exact hden

theorem scaled_eq (num den : Nat) (e : Int) :
    ((scaled num den e).1 : ℚ) / (scaled num den e).2 = (num : ℚ) / den / 2 ^ e := by
  rw [scaled]
  split_ifs with he
  · obtain ⟨n, rfl⟩ := Int.eq_ofNat_of_zero_le he
    simp only [Int.toNat_natCast, Nat.pow_eq, Nat.cast_mul, Nat.cast_pow, Nat.cast_ofNat,
      zpow_natCast, div_div]
  · obtain ⟨n, hn⟩ : ∃ n : Nat, e = -(n : Int) := ⟨(-e).toNat, by omega⟩
    subst hn
    simp only [neg_neg, Int.toNat_natCast, Nat.pow_eq, Nat.cast_mul, Nat.cast_pow, Nat.cast_ofNat,
      zpow_neg, zpow_natCast, div_inv_eq_mul, div_mul_eq_mul_div]

/-- The exponent at which a rational has 53 bits before the point. -/
structure Aligned (x : Int) (v : ℚ) : Prop where
  lower : 2 ^ 52 * 2 ^ x ≤ v
  upper : v < 2 ^ 53 * 2 ^ x

/-- A rational is large enough for exponents up to its own, and too large for lower ones. -/
theorem Aligned.le_of_lt {x y : Int} {v : ℚ} (h : Aligned x v) (hv : v < 2 ^ 53 * 2 ^ y) :
    x ≤ y := by
  have hlt : (2 : ℚ) ^ x < 2 ^ (y + 1) := by
    rw [two_zpow_succ]
    linarith [h.lower]
  have hxy := (zpow_lt_zpow_iff_right₀ (by norm_num : (1 : ℚ) < 2)).mp hlt
  omega

theorem Aligned.eq {x y : Int} {v : ℚ} (hx : Aligned x v) (hy : Aligned y v) : x = y :=
  Int.le_antisymm (hx.le_of_lt hy.upper) (hy.le_of_lt hx.upper)

/-- The exponent that is guessed from the lengths in bits is right or one too low. -/
theorem guess_bounds {num den : Nat} (hnum : 0 < num) (hden : 0 < den) :
    let u := (num : ℚ) / den / 2 ^ ((num.log2 : Int) - den.log2 - 53)
    2 ^ 52 ≤ u ∧ u < 2 ^ 54 := by
  intro u
  have hnum' : (2 : ℚ) ^ num.log2 ≤ num := by exact_mod_cast Nat.log2_self_le hnum.ne'
  have hnum'' : (num : ℚ) < 2 ^ (num.log2 + 1) := by exact_mod_cast Nat.lt_log2_self
  have hden' : (2 : ℚ) ^ den.log2 ≤ den := by exact_mod_cast Nat.log2_self_le hden.ne'
  have hden'' : (den : ℚ) < 2 ^ (den.log2 + 1) := by exact_mod_cast Nat.lt_log2_self
  have hpos : (0 : ℚ) < den := by exact_mod_cast hden
  have hscale : (2 : ℚ) ^ ((num.log2 : Int) - den.log2 - 53) =
      2 ^ num.log2 / (2 ^ den.log2 * 2 ^ 53) := by
    rw [zpow_sub₀ (by norm_num), zpow_sub₀ (by norm_num), zpow_natCast, zpow_natCast, div_div]
    norm_cast
  have hu : u = num * (2 ^ den.log2 * 2 ^ 53) / (den * 2 ^ num.log2) := by
    show (num : ℚ) / den / 2 ^ ((num.log2 : Int) - den.log2 - 53) = _
    rw [hscale, div_div_div_eq]
  have hbits : (0 : ℚ) < 2 ^ num.log2 := by positivity
  have hbits' : (0 : ℚ) < 2 ^ den.log2 := by positivity
  rw [hu]
  constructor
  · rw [le_div_iff₀ (by positivity)]
    rw [pow_succ] at hden''
    have hstep : (den : ℚ) * 2 ^ num.log2 ≤ 2 ^ den.log2 * 2 * num :=
      mul_le_mul hden''.le hnum' hbits.le (by positivity)
    linarith
  · rw [div_lt_iff₀ (by positivity)]
    rw [pow_succ] at hnum''
    have hstep : (num : ℚ) * 2 ^ den.log2 < 2 ^ num.log2 * 2 * den :=
      mul_lt_mul hnum'' hden' hbits' (by positivity)
    linarith

theorem exponentFor_of_guess {num den : Nat} {e : Int}
    (he : (num.log2 : Int) - den.log2 - 53 = e) : exponentFor num den = max minExponent
      (if (scaled num den e).1 / (scaled num den e).2 < 2 ^ 53 then e else e + 1) := by
  subst he
  rfl

theorem exists_aligned {num den : Nat} (hnum : 0 < num) (hden : 0 < den) :
    ∃ x, Aligned x ((num : ℚ) / den) ∧ exponentFor num den = max minExponent x := by
  obtain ⟨hlower, hupper⟩ := guess_bounds hnum hden
  generalize he : (num.log2 : Int) - den.log2 - 53 = e at hlower hupper
  have hpos := two_zpow_pos e
  rw [le_div_iff₀ hpos] at hlower
  rw [div_lt_iff₀ hpos] at hupper
  have hquotient : (scaled num den e).1 / (scaled num den e).2 < 2 ^ 53 ↔
      (num : ℚ) / den < 2 ^ 53 * 2 ^ e := by
    have hsnd := scaled_snd_pos num hden e
    have hsnd' : (0 : ℚ) < (scaled num den e).2 := by exact_mod_cast hsnd
    rw [← div_lt_iff₀ hpos, ← scaled_eq, Nat.div_lt_iff_lt_mul hsnd, div_lt_iff₀ hsnd']
    exact_mod_cast Iff.rfl
  by_cases hlt : (num : ℚ) / den < 2 ^ 53 * 2 ^ e
  · refine ⟨e, ⟨hlower, hlt⟩, ?_⟩
    rw [exponentFor_of_guess he, if_pos (hquotient.mpr hlt)]
  · refine ⟨e + 1, ⟨?_, ?_⟩, ?_⟩
    · rw [two_zpow_succ]
      linarith
    · rw [two_zpow_succ]
      linarith
    · rw [exponentFor_of_guess he, if_neg fun h => hlt (hquotient.mp h)]

/-- The exponent is that of the rational, if there is one so low. -/
theorem exponentFor_eq {num den : Nat} (hnum : 0 < num) (hden : 0 < den) {e : Int}
    (hleast : minExponent ≤ e)
    (hlower : 2 ^ 52 * 2 ^ e ≤ (num : ℚ) / den ∨ e = minExponent)
    (hupper : (num : ℚ) / den < 2 ^ 53 * 2 ^ e) : exponentFor num den = e := by
  obtain ⟨x, hx, hexp⟩ := exists_aligned hnum hden
  have hle := hx.le_of_lt hupper
  rcases hlower with hlower | rfl
  · rw [hexp, hx.eq ⟨hlower, hupper⟩]
    omega
  · rw [hexp]
    omega

/-! ## Quotients -/

theorem ofRatio_eq {num den : Nat} (hnum : 0 < num) (hden : 0 < den) (negative : Bool) {e : Int}
    {k : Nat} (he : exponentFor num den = e) (hk : Nearest k ((num : ℚ) / den / 2 ^ e)) :
    ofRatio negative num den =
      if k = 2 ^ 53 then
        if maxExponent < e + 1 then .infinite negative else .finite negative (2 ^ 52) (e + 1)
      else if maxExponent < e then .infinite negative else .finite negative k e := by
  have hround : divRound (scaled num den e).1 (scaled num den e).2 = k := by
    rw [← scaled_eq] at hk
    exact (nearest_divRound (scaled_snd_pos num hden e)).eq hk
  rw [ofRatio, if_neg hnum.ne', he]
  dsimp only
  rw [hround]
  by_cases hcarry : k = 2 ^ 53
  · have hcarry' : k = Nat.pow 2 53 := hcarry
    rw [if_pos hcarry, if_pos hcarry']
    rfl
  · have hcarry' : ¬ k = Nat.pow 2 53 := hcarry
    rw [if_neg hcarry, if_neg hcarry']

/-- What rounds to `m * 2 ^ e`: the interval between the middles to its neighbours. -/
structure Rounds (m : Nat) (e : Int) (v : ℚ) : Prop where
  lower : ((interval m e).1 : ℚ) * 2 ^ (e - 2) < v ∨
    m % 2 = 0 ∧ ((interval m e).1 : ℚ) * 2 ^ (e - 2) = v
  upper : v < ((interval m e).2 : ℚ) * 2 ^ (e - 2) ∨
    m % 2 = 0 ∧ v = ((interval m e).2 : ℚ) * 2 ^ (e - 2)

/-- How far below a number its interval starts: a quarter of a unit for the least mantissa, below
which the numbers are closer, and half a unit else. -/
def gap (m : Nat) (e : Int) : ℚ := if m = 2 ^ 52 ∧ minExponent < e then 1 / 4 else 1 / 2

theorem gap_le (m : Nat) (e : Int) : gap m e ≤ 1 / 2 := by
  rw [gap]
  split_ifs
  · norm_num
  · norm_num

theorem quarter (e : Int) : (2 : ℚ) ^ (e - 2) = 2 ^ e / 4 := by
  rw [zpow_sub₀ (by norm_num)]
  norm_num

theorem interval_fst {m : Nat} (hm : 0 < m) (e : Int) :
    ((interval m e).1 : ℚ) * 2 ^ (e - 2) = (m - gap m e) * 2 ^ e := by
  rw [quarter, interval, gap]
  by_cases hleast : m = 2 ^ 52 ∧ minExponent < e
  · have hleast' : m = Nat.pow 2 52 ∧ minExponent < e := hleast
    rw [if_pos hleast, if_pos hleast', Nat.cast_sub (by omega)]
    push_cast
    ring
  · have hleast' : ¬ (m = Nat.pow 2 52 ∧ minExponent < e) := hleast
    rw [if_neg hleast, if_neg hleast', Nat.cast_sub (by omega)]
    push_cast
    ring

theorem interval_snd (m : Nat) (e : Int) :
    ((interval m e).2 : ℚ) * 2 ^ (e - 2) = (m + 1 / 2) * 2 ^ e := by
  rw [quarter, interval]
  push_cast
  ring

namespace Rounds

variable {m : Nat} {e : Int} {v : ℚ}

theorem upper_unit (h : Rounds m e v) :
    v / 2 ^ e < m + 1 / 2 ∨ m % 2 = 0 ∧ v / 2 ^ e = m + 1 / 2 := by
  rw [div_lt_iff₀ (two_zpow_pos e), div_eq_iff (two_zpow_pos e).ne', ← interval_snd]
  exact h.upper

theorem lower_unit (h : Rounds m e v) (hm : 0 < m) :
    (m : ℚ) - gap m e < v / 2 ^ e ∨ m % 2 = 0 ∧ (m : ℚ) - gap m e = v / 2 ^ e := by
  rw [lt_div_iff₀ (two_zpow_pos e), eq_div_iff (two_zpow_pos e).ne', ← interval_fst hm]
  exact h.lower

/-- What lies strictly between the ends rounds to the number. -/
theorem of_between (hm : 0 < m) (hlower : (m - gap m e) * 2 ^ e < v)
    (hupper : v < (m + 1 / 2) * 2 ^ e) : Rounds m e v := by
  rw [← interval_fst hm] at hlower
  rw [← interval_snd] at hupper
  exact ⟨.inl hlower, .inl hupper⟩

theorem le_unit (h : Rounds m e v) : v / 2 ^ e ≤ m + 1 / 2 := by
  rcases h.upper_unit with h | ⟨-, h⟩
  · exact h.le
  · exact h.le

theorem unit_le (h : Rounds m e v) (hm : 0 < m) :
    (m : ℚ) - gap m e ≤ v / 2 ^ e := by
  rcases h.lower_unit hm with h | ⟨-, h⟩
  · exact h.le
  · exact h.le

theorem pos (h : Rounds m e v) (hm : 0 < m) : 0 < v := by
  have hlower := h.unit_le hm
  have hone : (1 : ℚ) ≤ m := by exact_mod_cast hm
  have hunit : 0 < v / 2 ^ e := by linarith [gap_le m e]
  exact (div_pos_iff_of_pos_right (two_zpow_pos e)).mp hunit

theorem lt_next (h : Rounds m e v) (hfits : Fits m e) : v < 2 ^ 53 * 2 ^ e := by
  have hm : (m : ℚ) + 1 ≤ 2 ^ 53 := by exact_mod_cast hfits.mantissa_lt
  rw [← div_lt_iff₀ (two_zpow_pos e)]
  linarith [h.le_unit]

/-- At the exponent of the value the mantissa is the nearest integer. -/
theorem nearest (h : Rounds m e v) (hm : 0 < m) (hlow : 2 ^ 52 * 2 ^ e ≤ v ∨ e = minExponent) :
    Nearest m (v / 2 ^ e) := by
  refine ⟨?_, h.upper_unit⟩
  have hlower := h.lower_unit hm
  by_cases hleast : m = 2 ^ 52 ∧ minExponent < e
  · obtain ⟨hm', he⟩ := hleast
    rcases hlow with hlow | hlow
    · rw [← le_div_iff₀ (two_zpow_pos e)] at hlow
      refine .inl (lt_of_lt_of_le ?_ hlow)
      rw [hm']
      norm_num
    · omega
  · rwa [gap, if_neg hleast] at hlower

/-- A value below the binade of its number is a quarter at most below a power of two. -/
theorem carry (h : Rounds m e v) (hfits : Fits m e) (hm : 0 < m) (he : minExponent < e)
    (hlow : v < 2 ^ 52 * 2 ^ e) : m = 2 ^ 52 ∧ Nearest (2 ^ 53) (v / 2 ^ (e - 1)) := by
  have hlead : 2 ^ 52 ≤ m := hfits.leading.resolve_right (by omega)
  have hlower := h.unit_le hm
  rw [← div_lt_iff₀ (two_zpow_pos e)] at hlow
  have hm' : m = 2 ^ 52 := by
    by_contra hne
    have hsucc : (2 ^ 52 : ℚ) + 1 ≤ m := by exact_mod_cast (show 2 ^ 52 + 1 ≤ m by omega)
    linarith [gap_le m e]
  rw [gap, if_pos ⟨hm', he⟩, hm'] at hlower
  have hhalf : v / 2 ^ (e - 1) = 2 * (v / 2 ^ e) := by
    rw [zpow_sub_one₀ (by norm_num), ← div_div, div_inv_eq_mul, mul_comm]
  refine ⟨hm', ?_, .inl ?_⟩
  · rw [hhalf]
    push_cast at hlower ⊢
    rcases eq_or_lt_of_le hlower with heq | hlt
    · exact .inr ⟨by norm_num, by linarith⟩
    · exact .inl (by linarith)
  · rw [hhalf]
    push_cast
    linarith

end Rounds

/-- **Quotients are rounded to the nearest number.** -/
theorem ofRatio_of_rounds {m : Nat} {e : Int} {num den : Nat} (hfits : Fits m e) (hm : 0 < m)
    (hden : 0 < den) (h : Rounds m e ((num : ℚ) / den)) (negative : Bool) :
    ofRatio negative num den = .finite negative m e := by
  have hnum : 0 < num := by
    rcases Nat.eq_zero_or_pos num with rfl | hnum
    · have hpos := h.pos hm
      rw [Nat.cast_zero, zero_div] at hpos
      exact absurd hpos (lt_irrefl 0)
    · exact hnum
  have hupper := h.lt_next hfits
  have hgreatest := hfits.exponent_le
  have hleast := hfits.le_exponent
  by_cases hlow : 2 ^ 52 * 2 ^ e ≤ (num : ℚ) / den ∨ e = minExponent
  · have hm53 := hfits.mantissa_lt
    rw [ofRatio_eq hnum hden negative (exponentFor_eq hnum hden hleast hlow hupper)
      (h.nearest hm hlow), if_neg (by omega), if_neg (by omega)]
  · push Not at hlow
    have he : minExponent < e := by omega
    obtain ⟨rfl, hnearest⟩ := h.carry hfits hm he hlow.1
    -- the value lies in the binade below, and rounding carries it up
    have hnext : (2 : ℚ) ^ e = 2 * 2 ^ (e - 1) := by rw [← two_zpow_succ, sub_add_cancel]
    have hbelow := hnearest.sub_le
    rw [le_div_iff₀ (two_zpow_pos _)] at hbelow
    push_cast at hbelow
    have hexp : exponentFor num den = e - 1 := by
      refine exponentFor_eq hnum hden (by omega) (.inl ?_) ?_
      · linarith [two_zpow_pos (e - 1)]
      · linarith [hlow.1]
    rw [ofRatio_eq hnum hden negative hexp hnearest, if_pos rfl, sub_add_cancel,
      if_neg (by omega)]

/-- Whatever a quotient is rounded to is well formed. -/
theorem wellFormed_ofRatio (negative : Bool) (num : Nat) {den : Nat} (hden : 0 < den) :
    (ofRatio negative num den).WellFormed := by
  rcases Nat.eq_zero_or_pos num with rfl | hnum
  · exact wellFormed_zero negative
  obtain ⟨x, hx, hexp⟩ := exists_aligned hnum hden
  generalize he : max minExponent x = e at hexp
  have hleast : minExponent ≤ e := by omega
  obtain ⟨k, hunit⟩ : ∃ k, Nearest k ((num : ℚ) / den / 2 ^ e) := by
    rw [← scaled_eq]
    exact ⟨_, nearest_divRound (scaled_snd_pos num hden e)⟩
  have hupper : (num : ℚ) / den / 2 ^ e < 2 ^ 53 := by
    rw [div_lt_iff₀ (two_zpow_pos e)]
    have hmono : (2 : ℚ) ^ x ≤ 2 ^ e := zpow_le_zpow_right₀ (by norm_num) (by omega)
    linarith [hx.upper]
  have hk : k ≤ 2 ^ 53 := by
    have hlt : (k : ℚ) < 2 ^ 53 + 1 := by linarith [hunit.sub_le]
    exact Nat.lt_succ_iff.mp (by exact_mod_cast hlt)
  have hleading : 2 ^ 52 ≤ k ∨ e = minExponent := by
    by_cases hmin : e = minExponent
    · exact .inr hmin
    · obtain rfl : x = e := by omega
      have hlower := hx.lower
      rw [← le_div_iff₀ (two_zpow_pos x)] at hlower
      have hlt : (2 ^ 52 : ℚ) < k + 1 := by linarith [hunit.le_add]
      exact .inl (Nat.lt_succ_iff.mp (by exact_mod_cast hlt))
  rw [ofRatio_eq hnum hden negative hexp hunit]
  split_ifs with hcarry hinf hinf
  · trivial
  · exact ⟨by norm_num, by omega, by omega, .inl le_rfl⟩
  · trivial
  · exact ⟨by omega, hleast, by omega, hleading⟩

/-! ## Decimals -/

theorem ten_zpow_pos (p : Int) : (0 : ℚ) < 10 ^ p := zpow_pos (by norm_num) p

/-- A decimal as a quotient of natural numbers. -/
theorem exists_ofRatio (negative : Bool) (d : Nat) (p : Int) :
    ∃ num den : Nat, 0 < den ∧ (d : ℚ) * 10 ^ p = (num : ℚ) / den ∧
      (if 0 ≤ p then ofRatio negative (d * Nat.pow 10 p.toNat) 1
        else ofRatio negative d (Nat.pow 10 (-p).toNat)) = ofRatio negative num den := by
  by_cases hp : 0 ≤ p
  · obtain ⟨n, rfl⟩ := Int.eq_ofNat_of_zero_le hp
    refine ⟨d * 10 ^ n, 1, Nat.one_pos, ?_, if_pos hp⟩
    rw [zpow_natCast, Nat.cast_one, div_one]
    push_cast
    rfl
  · obtain ⟨n, hn⟩ : ∃ n : Nat, p = -(n : Int) := ⟨(-p).toNat, by omega⟩
    subst hn
    refine ⟨d, 10 ^ n, Nat.pow_pos (by decide), ?_, ?_⟩
    · rw [zpow_neg, zpow_natCast, ← div_eq_mul_inv]
      push_cast
      rfl
    · rw [if_neg hp, neg_neg, Int.toNat_natCast]
      rfl

/-- A decimal lies between the powers of ten at its first digit. -/
theorem decimal_bounds {d : Nat} (hd : 0 < d) (p : Int) :
    let place : Int := (Nat.toDigits 10 d).length + p
    (10 : ℚ) ^ (place - 1) ≤ d * 10 ^ p ∧ (d : ℚ) * 10 ^ p < 10 ^ place := by
  intro place
  have hlength := Nat.length_toDigits_pos (b := 10) (n := d)
  have hupper : d < 10 ^ (Nat.toDigits 10 d).length :=
    (Nat.length_toDigits_le_iff (by decide) hlength).mp le_rfl
  have hlower : 10 ^ ((Nat.toDigits 10 d).length - 1) ≤ d := by
    rcases Nat.eq_zero_or_pos ((Nat.toDigits 10 d).length - 1) with hone | hmore
    · rw [hone]
      exact hd
    · by_contra hlt
      have hle := (Nat.length_toDigits_le_iff (by decide) hmore).mpr (Nat.lt_of_not_le hlt)
      omega
  generalize hk : (Nat.toDigits 10 d).length = k at hlength hupper hlower
  have hplace : place = (k : Int) + p := by rw [← hk]
  have hlower' : (10 : ℚ) ^ (k - 1) ≤ d := by exact_mod_cast hlower
  have hupper' : (d : ℚ) < 10 ^ k := by exact_mod_cast hupper
  constructor
  · have hsplit : (10 : ℚ) ^ (place - 1) = 10 ^ (k - 1) * 10 ^ p := by
      rw [← zpow_natCast, ← zpow_add₀ (by norm_num)]
      congr 1
      omega
    rw [hsplit]
    exact mul_le_mul_of_nonneg_right hlower' (ten_zpow_pos p).le
  · rw [hplace, zpow_add₀ (by norm_num), zpow_natCast]
    exact mul_lt_mul_of_pos_right hupper' (ten_zpow_pos p)

/-- The range of the numbers is well inside that of the decimals that are settled by a look at their
first digit. -/
theorem two_zpow_le_ten_zpow : (2 : ℚ) ^ (1075 : Int) ≤ 10 ^ (400 : Int) := by
  have hnat : 2 ^ 1075 ≤ 10 ^ 400 := by decide +kernel
  have hpow : (2 : ℚ) ^ 1075 ≤ 10 ^ 400 := by exact_mod_cast hnat
  exact hpow

/-- A decimal that rounds to a positive number is positive. -/
theorem Rounds.digits_pos {m d : Nat} {e p : Int} (h : Rounds m e ((d : ℚ) * 10 ^ p))
    (hm : 0 < m) : 0 < d := by
  rcases Nat.eq_zero_or_pos d with rfl | hd
  · have hpos := h.pos hm
    rw [Nat.cast_zero, zero_mul] at hpos
    exact absurd hpos (lt_irrefl 0)
  · exact hd

/-- **Decimals are rounded to the nearest number.** What rounds to a number in range is not so far
out of range that its first digit settles it. -/
theorem ofDecimal_of_rounds {m d : Nat} {e p : Int} (hfits : Fits m e) (hm : 0 < m)
    (h : Rounds m e ((d : ℚ) * 10 ^ p)) (negative : Bool) :
    ofDecimal negative d p = .finite negative m e := by
  have hd := h.digits_pos hm
  obtain ⟨hlower, hupper⟩ := decimal_bounds hd p
  generalize hplace : ((Nat.toDigits 10 d).length : Int) + p = place at hlower hupper
  have hnear : ¬ 400 < place := by
    intro hfar
    have hten : (10 : ℚ) ^ (400 : Int) ≤ 10 ^ (place - 1) :=
      zpow_le_zpow_right₀ (by norm_num) (by omega)
    have hgreatest : e ≤ 971 := hfits.exponent_le
    have htwo : (2 : ℚ) ^ (53 + e) ≤ 2 ^ (1075 : Int) :=
      zpow_le_zpow_right₀ (by norm_num) (by omega)
    rw [zpow_add₀ (by norm_num)] at htwo
    have hlt : (d : ℚ) * 10 ^ p < 2 ^ (53 : Int) * 2 ^ e := h.lt_next hfits
    exact absurd (hten.trans hlower) (not_le_of_gt ((hlt.trans_le htwo).trans_le
      two_zpow_le_ten_zpow))
  have hnear' : ¬ place < -400 := by
    intro hfar
    have hten : (10 : ℚ) ^ place ≤ 10 ^ (-400 : Int) := zpow_le_zpow_right₀ (by norm_num) hfar.le
    have hleast : -1074 ≤ e := hfits.le_exponent
    have htwo : (2 : ℚ) ^ (-1075 : Int) ≤ 2 ^ (e - 1) :=
      zpow_le_zpow_right₀ (by norm_num) (by omega)
    rw [zpow_sub_one₀ (by norm_num)] at htwo
    have hrange : (10 : ℚ) ^ (-400 : Int) ≤ 2 ^ (-1075 : Int) := by
      rw [zpow_neg, zpow_neg]
      exact inv_anti₀ (two_zpow_pos _) two_zpow_le_ten_zpow
    have hhalf : 1 / 2 ≤ (d : ℚ) * 10 ^ p / 2 ^ e := by
      have hone : (1 : ℚ) ≤ m := by exact_mod_cast hm
      linarith [h.unit_le hm, gap_le m e]
    rw [le_div_iff₀ (two_zpow_pos e)] at hhalf
    linarith
  obtain ⟨num, den, hden, hv, hratio⟩ := exists_ofRatio negative d p
  rw [hv] at h
  rw [ofDecimal, if_neg hd.ne']
  dsimp only
  rw [hplace, if_neg hnear, if_neg hnear', hratio]
  exact ofRatio_of_rounds hfits hm hden h negative

/-- Whatever a decimal is rounded to is well formed. -/
theorem wellFormed_ofDecimal (negative : Bool) (d : Nat) (p : Int) :
    (ofDecimal negative d p).WellFormed := by
  obtain ⟨num, den, hden, -, hratio⟩ := exists_ofRatio negative d p
  rw [ofDecimal]
  dsimp only
  rw [hratio]
  split_ifs
  · exact wellFormed_zero negative
  · trivial
  · exact wellFormed_zero negative
  · exact wellFormed_ofRatio negative num hden

end Double

end DartComments
