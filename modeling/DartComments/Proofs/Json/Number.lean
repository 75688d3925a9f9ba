import DartComments.Json.Reader
import DartComments.Proofs.Number.Reading
import DartComments.Proofs.Number.Shortest

/-!
# Numbers read back

A number is spelled with a sign, digits, perhaps a fraction and perhaps a power of ten, and is read
from the spelling part by part, up to what closes the value (`Closes`). The spelling of a whole
number gives the number back, and that of a floating-point number one that rounds to it
(`readNumber?_ofInt`, `readNumber?_text`).
-/

namespace DartComments

/-! ## Digits -/

namespace Number

/-- A text that does not start with a digit. -/
def NoDigit (t : Text) : Prop := ∀ c, t.head? = some c → c.asciiDigit? = none

theorem spanDigits_of_noDigit {t : Text} (h : NoDigit t) : spanDigits t = ([], t) := by
  cases t with
  | nil => rfl
  | cons c t => rw [spanDigits, h c rfl]

/-- A run of digits is read to its end. -/
theorem spanDigits_ofChars {cs : List Char} (hcs : ∀ c ∈ cs, c.isDigit = true) {rest : Text}
    (hrest : NoDigit rest) :
    spanDigits (Text.ofChars cs ++ rest) = (cs.map digitValue, rest) := by
  induction cs with
  | nil => exact spanDigits_of_noDigit hrest
  | cons c cs ih =>
    rw [List.forall_mem_cons] at hcs
    have hdigit : CodePoint.asciiDigit? (.char c) = some (digitValue c) := if_pos hcs.1
    show spanDigits (.char c :: (Text.ofChars cs ++ rest)) = _
    rw [spanDigits, hdigit, ih hcs.2]
    rfl

theorem isDigit_replicate (k : Nat) : ∀ c ∈ List.replicate k '0', c.isDigit = true := by
  intro c hc
  rw [List.eq_of_mem_replicate hc]
  rfl

/-- The first digit of a positive number is not zero. -/
theorem head?_toDigits_ne {n : Nat} (hn : 0 < n) : (Nat.toDigits 10 n).head? ≠ some '0' := by
  induction n using Nat.strongRecOn with
  | ind n ih =>
    by_cases hsmall : n < 10
    · rw [Nat.toDigits_of_lt_base hsmall, List.head?_cons]
      intro hzero
      have hvalue := Nat.toNat_digitChar_of_lt_ten hsmall
      rw [Option.some.inj hzero] at hvalue
      have hcode : '0'.toNat = 48 := rfl
      omega
    · have hdiv : 0 < n / 10 := by omega
      rw [Nat.toDigits_of_base_le (by decide) (by omega),
        List.head?_append_of_ne_nil _ Nat.toDigits_ne_nil]
      exact ih (n / 10) (by omega) hdiv

end Number

namespace Json

open Number

/-! ## Parts of a number -/

/-- What may follow a value: nothing, or a comma or a bracket that closes. -/
def Closes (t : Text) : Prop :=
  ∀ c, t.head? = some c → c = .char ',' ∨ c = .char ']' ∨ c = .char '\x7d'

theorem closes_nil : Closes [] := by
  intro c hc
  cases hc

theorem Closes.noDigit {t : Text} (h : Closes t) : NoDigit t := by
  intro c hc
  rcases h c hc with rfl | rfl | rfl <;> rfl

/-- Digits before the point: a lone zero, or digits of which the first is not zero. -/
structure Whole (cs : List Char) : Prop where
  digits : ∀ c ∈ cs, c.isDigit = true
  ne_nil : cs ≠ []
  lead : cs = ['0'] ∨ cs.head? ≠ some '0'

theorem whole_zero : Whole ['0'] :=
  ⟨isDigit_replicate 1, List.cons_ne_nil _ _, .inl rfl⟩

theorem whole_toDigits (n : Nat) : Whole (Nat.toDigits 10 n) := by
  refine ⟨isDigit_of_mem_toDigits n, Nat.toDigits_ne_nil, ?_⟩
  rcases Nat.eq_zero_or_pos n with rfl | hn
  · exact .inl (Nat.toDigits_zero 10)
  · exact .inr (head?_toDigits_ne hn)

theorem readWhole_ofChars {cs : List Char} (h : Whole cs) {rest : Text} (hrest : NoDigit rest) :
    readWhole (Text.ofChars cs ++ rest) = (cs.map digitValue, rest) := by
  have hspan := spanDigits_ofChars h.digits hrest
  rcases h.lead with rfl | hlead
  · rfl
  · rw [readWhole.eq_def]
    split
    · next heq =>
      obtain ⟨c, cs, rfl⟩ := List.exists_cons_of_ne_nil h.ne_nil
      cases heq
      exact absurd rfl hlead
    · exact hspan

theorem readFraction_ofChars {cs : List Char} (hcs : ∀ c ∈ cs, c.isDigit = true) (hne : cs ≠ [])
    {rest : Text} (hrest : NoDigit rest) :
    readFraction (.char '.' :: (Text.ofChars cs ++ rest)) = (some (cs.map digitValue), rest) := by
  obtain ⟨c, cs, rfl⟩ := List.exists_cons_of_ne_nil hne
  rw [readFraction, spanDigits_ofChars hcs hrest]
  rfl

theorem readFraction_none {t : Text} (h : t.head? ≠ some (.char '.')) :
    readFraction t = (none, t) := by
  rw [readFraction.eq_def]
  split
  · exact absurd rfl h
  · rfl

/-- A text that does not start with the mark of a power. -/
def NoPower (t : Text) : Prop := ∀ c, t.head? = some c → c ≠ .char 'e' ∧ c ≠ .char 'E'

theorem readPower_none {t : Text} (h : NoPower t) : readPower t = (none, t) := by
  cases t with
  | nil => rfl
  | cons c t =>
    obtain ⟨he, hE⟩ := h c rfl
    rw [readPower]
    simp [he, hE]

theorem Closes.noPower {t : Text} (h : Closes t) : NoPower t := by
  intro c hc
  rcases h c hc with rfl | rfl | rfl <;> decide

theorem Closes.noPoint {t : Text} (h : Closes t) : t.head? ≠ some (.char '.') := by
  intro hc
  rcases h _ hc with h | h | h <;> revert h <;> decide

theorem ofDigitChars_pad (k n : Nat) :
    Nat.ofDigitChars 10 (List.replicate k '0' ++ Nat.toDigits 10 n) 0 = n := by
  rw [Nat.ofDigitChars_append, Nat.ofDigitChars_replicate_zero, Nat.mul_zero,
    Nat.ofDigitChars_ten_toDigits]

theorem readPower_of_spanDigits {t digits rest : Text} {negative : Bool} {ds : List Nat}
    (hsign : splitSign t = (negative, digits)) (hspan : spanDigits digits = (ds, rest))
    (hne : ds ≠ []) :
    readPower (.char 'e' :: t) =
      (some (if negative then -(Text.ofDigitValues ds : Int) else Text.ofDigitValues ds),
        rest) := by
  obtain ⟨d, ds, rfl⟩ := List.exists_cons_of_ne_nil hne
  rw [readPower, if_pos (by decide), hsign]
  dsimp only
  rw [hspan]

theorem readPower_exponentText (x : Int) {rest : Text} (hrest : NoDigit rest) :
    readPower (.char 'e' :: (Double.exponentText x ++ rest)) = (some x, rest) := by
  let ds := List.replicate (2 - (Nat.toDigits 10 x.natAbs).length) '0' ++ Nat.toDigits 10 x.natAbs
  have hdigits : ∀ c ∈ ds, c.isDigit = true :=
    List.forall_mem_append.mpr ⟨isDigit_replicate _, isDigit_of_mem_toDigits _⟩
  have hne : ds.map digitValue ≠ [] := by
    rw [ne_eq, List.map_eq_nil_iff]
    exact List.append_ne_nil_of_right_ne_nil _ Nat.toDigits_ne_nil
  have hvalue : Text.ofDigitValues (ds.map digitValue) = x.natAbs := by
    rw [ofDigitValues_map]
    exact ofDigitChars_pad _ _
  have hsign : splitSign (Double.exponentText x ++ rest) =
      (decide (x < 0), Text.ofChars ds ++ rest) := by
    show splitSign (.char (if x < 0 then '-' else '+') :: (Text.ofChars ds ++ rest)) = _
    by_cases hx : x < 0
    · rw [if_pos hx, splitSign, decide_eq_true hx]
    · rw [if_neg hx, splitSign, decide_eq_false hx]
  rw [readPower_of_spanDigits hsign (spanDigits_ofChars hdigits hrest) hne, hvalue]
  simp only [decide_eq_true_eq, Prod.mk.injEq, Option.some.injEq, and_true]
  split_ifs
  · omega
  · omega

/-! ## Whole numbers -/

/-- What follows the sign of a number. -/
def readUnsigned? (negative : Bool) (t : Text) : Option (Json × Text) :=
  match readWhole t with
  | ([], _) => none
  | (whole, t) =>
    let (fraction, t) := readFraction t
    let (power, t) := readPower t
    match fraction, power with
    | none, none =>
      if digitLimit < whole.length then none
      else
        let n := Text.ofDigitValues whole
        some (.int (if negative then -(n : Int) else n), t)
    | _, _ =>
      let part := fraction.getD []
      some (.float (Double.ofDecimal negative (Text.ofDigitValues (whole ++ part))
        (power.getD 0 - part.length)), t)

/-- The sign of a number. -/
def signText (negative : Bool) : Text := if negative then "-" else []

theorem readNumber?_signText (negative : Bool) {t : Text} (h : t.head? ≠ some (.char '-')) :
    readNumber? (signText negative ++ t) = readUnsigned? negative t := by
  cases negative with
  | true => rfl
  | false =>
    show readNumber? t = _
    unfold readNumber?
    split
    next negative t' heq =>
    split at heq
    · exact absurd rfl h
    · cases heq
      rfl

/-- Digits start with no sign. -/
theorem Whole.head?_ne {cs : List Char} (h : Whole cs) (t : Text) :
    (Text.ofChars cs ++ t).head? ≠ some (.char '-') := by
  obtain ⟨c, cs, rfl⟩ := List.exists_cons_of_ne_nil h.ne_nil
  intro hc
  have hdigit := h.digits c (List.mem_cons_self ..)
  cases hc
  revert hdigit
  decide

theorem readUnsigned?_ofNat {negative : Bool} {n : Nat} {rest : Text} (hrest : Closes rest)
    (hn : n < 10 ^ digitLimit) :
    readUnsigned? negative (Text.ofNat n ++ rest) =
      some (.int (if negative then -(n : Int) else n), rest) := by
  have hlength : ¬ digitLimit < ((Nat.toDigits 10 n).map digitValue).length := by
    rw [List.length_map, not_lt]
    exact (Nat.length_toDigits_le_iff (by decide) (by decide)).mpr hn
  have hvalue : Text.ofDigitValues ((Nat.toDigits 10 n).map digitValue) = n := by
    rw [ofDigitValues_map, Nat.ofDigitChars_ten_toDigits]
  have hne : (Nat.toDigits 10 n).map digitValue ≠ [] := by
    rw [ne_eq, List.map_eq_nil_iff]
    exact Nat.toDigits_ne_nil
  rw [readUnsigned?, Text.ofNat, readWhole_ofChars (whole_toDigits n) hrest.noDigit]
  generalize (Nat.toDigits 10 n).map digitValue = ds at hlength hvalue hne
  obtain ⟨d, ds, rfl⟩ := List.exists_cons_of_ne_nil hne
  dsimp only
  rw [readFraction_none hrest.noPoint]
  dsimp only
  rw [readPower_none hrest.noPower]
  dsimp only
  rw [if_neg hlength, hvalue]

/-- A whole number is read back. -/
theorem readNumber?_ofInt {i : Int} {rest : Text} (hrest : Closes rest)
    (hi : i.natAbs < 10 ^ digitLimit) :
    readNumber? (Text.ofInt i ++ rest) = some (.int i, rest) := by
  have hread : ∀ negative (n : Nat), n < 10 ^ digitLimit →
      readNumber? (signText negative ++ (Text.ofNat n ++ rest)) =
        some (.int (if negative then -(n : Int) else n), rest) := by
    intro negative n hn
    have hhead : (Text.ofNat n ++ rest).head? ≠ some (.char '-') :=
      (whole_toDigits n).head?_ne rest
    rw [readNumber?_signText negative hhead, readUnsigned?_ofNat hrest hn]
  cases i with
  | ofNat n => exact hread false n hi
  | negSucc n => exact hread true (n + 1) hi

/-! ## Floating-point numbers -/

/-- A decimal as it is spelled: digits before the point, and a fraction or a power or both. -/
structure Spelling where
  whole : List Char
  fraction : Option (List Char)
  power : Option Int
  isWhole : Whole whole
  isFraction : ∀ cs, fraction = some cs → (∀ c ∈ cs, c.isDigit = true) ∧ cs ≠ []
  isFloat : fraction ≠ none ∨ power ≠ none

namespace Spelling

def fractionText : Option (List Char) → Text
  | none => []
  | some cs => .char '.' :: Text.ofChars cs

def powerText : Option Int → Text
  | none => []
  | some x => .char 'e' :: Double.exponentText x

def text (s : Spelling) : Text :=
  Text.ofChars s.whole ++ (fractionText s.fraction ++ powerText s.power)

/-- All digits, as a number. -/
def digits (s : Spelling) : Nat := Nat.ofDigitChars 10 (s.whole ++ s.fraction.getD []) 0

/-- The power of ten of the last digit. -/
def exponent (s : Spelling) : Int := s.power.getD 0 - (s.fraction.getD []).length

theorem noDigit_power (power : Option Int) {rest : Text} (hrest : Closes rest) :
    NoDigit (powerText power ++ rest) := by
  cases power with
  | none => exact hrest.noDigit
  | some x =>
    intro c hc
    cases hc
    rfl

theorem noDigit_fraction (fraction : Option (List Char)) {t : Text} (ht : NoDigit t) :
    NoDigit (fractionText fraction ++ t) := by
  cases fraction with
  | none => exact ht
  | some cs =>
    intro c hc
    cases hc
    rfl

theorem readFraction_fractionText (s : Spelling) {rest : Text} (hrest : Closes rest) :
    readFraction (fractionText s.fraction ++ (powerText s.power ++ rest)) =
      (s.fraction.map fun cs => cs.map digitValue, powerText s.power ++ rest) := by
  cases hf : s.fraction with
  | none =>
    refine readFraction_none ?_
    cases s.power with
    | none => exact hrest.noPoint
    | some x =>
      intro hc
      cases hc
  | some cs =>
    obtain ⟨hcs, hne⟩ := s.isFraction cs hf
    exact readFraction_ofChars hcs hne (noDigit_power s.power hrest)

theorem readPower_powerText (power : Option Int) {rest : Text} (hrest : Closes rest) :
    readPower (powerText power ++ rest) = (power, rest) := by
  cases power with
  | none => exact readPower_none hrest.noPower
  | some x => exact readPower_exponentText x hrest.noDigit

/-- A decimal is read from its spelling and rounded. -/
theorem readUnsigned?_text (s : Spelling) (negative : Bool) {rest : Text} (hrest : Closes rest) :
    readUnsigned? negative (s.text ++ rest) =
      some (.float (Double.ofDecimal negative s.digits s.exponent), rest) := by
  have htext : s.text ++ rest =
      Text.ofChars s.whole ++ (fractionText s.fraction ++ (powerText s.power ++ rest)) := by
    rw [text, List.append_assoc, List.append_assoc]
  have hwhole := readWhole_ofChars s.isWhole
    (noDigit_fraction s.fraction (noDigit_power s.power hrest))
  have hne : s.whole.map digitValue ≠ [] := by
    rw [ne_eq, List.map_eq_nil_iff]
    exact s.isWhole.ne_nil
  have hdigits : Text.ofDigitValues
      (s.whole.map digitValue ++ (s.fraction.map fun cs => cs.map digitValue).getD []) =
        s.digits := by
    rw [digits, ← ofDigitValues_map, List.map_append]
    cases s.fraction <;> rfl
  have hexponent : s.power.getD 0 - ((s.fraction.map fun cs => cs.map digitValue).getD []).length =
      s.exponent := by
    rw [exponent]
    cases s.fraction <;> simp
  have hfloat := s.isFloat
  rw [readUnsigned?, htext, hwhole]
  generalize s.whole.map digitValue = ds at hne hdigits
  obtain ⟨d, ds, rfl⟩ := List.exists_cons_of_ne_nil hne
  dsimp only
  rw [s.readFraction_fractionText hrest]
  dsimp only
  rw [readPower_powerText s.power hrest]
  dsimp only
  rw [← hdigits, ← hexponent]
  cases hf : s.fraction with
  | some cs => rfl
  | none =>
    cases hp : s.power with
    | some x => rfl
    | none =>
      rw [hf, hp] at hfloat
      simp at hfloat

/-- The number that a spelling stands for. -/
def value (s : Spelling) : ℚ := s.digits * 10 ^ s.exponent

theorem value_eq {s : Spelling} {n : Nat} {x : Int} (hdigits : s.digits = n)
    (hexponent : s.exponent = x) : s.value = (n : ℚ) * 10 ^ x := by
  rw [value, hdigits, hexponent]

section

variable {ds : List Char} (hds : Whole ds) (hlead : ds.head? ≠ some '0')

/-- Zeros after the point, and then the digits. -/
def small (k : Nat) : Spelling where
  whole := ['0']
  fraction := some (List.replicate k '0' ++ ds)
  power := none
  isWhole := whole_zero
  isFraction := by
    rintro cs ⟨⟩
    exact ⟨List.forall_mem_append.mpr ⟨isDigit_replicate k, hds.digits⟩,
      List.append_ne_nil_of_right_ne_nil _ hds.ne_nil⟩
  isFloat := .inl (by simp)

theorem value_small (k : Nat) :
    (small hds k).value = (Nat.ofDigitChars 10 ds 0 : ℚ) * 10 ^ (-(k : Int) - ds.length) := by
  refine value_eq ?_ ?_
  · show Nat.ofDigitChars 10 (['0'] ++ (List.replicate k '0' ++ ds)) 0 = _
    rw [Nat.ofDigitChars_append, Nat.ofDigitChars_append, Nat.ofDigitChars_replicate_zero]
    rfl
  · show (0 : Int) - (List.replicate k '0' ++ ds).length = _
    rw [List.length_append, List.length_replicate]
    omega

/-- The digits and a power. -/
def scaled (x : Int) : Spelling where
  whole := ds
  fraction := none
  power := some x
  isWhole := hds
  isFraction := by
    rintro cs ⟨⟩
  isFloat := .inr (by simp)

theorem value_scaled (x : Int) :
    (scaled hds x).value = (Nat.ofDigitChars 10 ds 0 : ℚ) * 10 ^ x := by
  refine value_eq ?_ ?_
  · show Nat.ofDigitChars 10 (ds ++ []) 0 = _
    rw [List.append_nil]
  · exact sub_zero x

/-- The digits, zeros, and a zero after the point. -/
def large (k : Nat) : Spelling where
  whole := ds ++ List.replicate k '0'
  fraction := some ['0']
  power := none
  isWhole := by
    refine ⟨List.forall_mem_append.mpr ⟨hds.digits, isDigit_replicate k⟩,
      List.append_ne_nil_of_left_ne_nil hds.ne_nil _, .inr ?_⟩
    rwa [List.head?_append_of_ne_nil _ hds.ne_nil]
  isFraction := by
    rintro cs ⟨⟩
    exact ⟨whole_zero.digits, whole_zero.ne_nil⟩
  isFloat := .inl (by simp)

theorem value_large (k : Nat) :
    (large hds hlead k).value = (Nat.ofDigitChars 10 ds 0 : ℚ) * 10 ^ (k : Int) := by
  have hdigits : (large hds hlead k).digits = Nat.ofDigitChars 10 ds 0 * 10 ^ (k + 1) := by
    show Nat.ofDigitChars 10 (ds ++ List.replicate k '0' ++ ['0']) 0 = _
    have hzeros : List.replicate k '0' ++ ['0'] = List.replicate (k + 1) '0' :=
      List.replicate_append_replicate (m := 1)
    rw [List.append_assoc, hzeros, Nat.ofDigitChars_append, Nat.ofDigitChars_replicate_zero,
      Nat.mul_comm]
  have hexponent : (large hds hlead k).exponent = -1 := rfl
  rw [value_eq hdigits hexponent]
  push_cast
  rw [mul_assoc, ← zpow_natCast, ← zpow_add₀ (by norm_num)]
  congr 2
  push_cast
  omega

/-- The point among the digits, and perhaps a power. -/
def cut {n : Nat} (hn : 0 < n) (hlen : n < ds.length) (power : Option Int) : Spelling where
  whole := ds.take n
  fraction := some (ds.drop n)
  power := power
  isWhole := by
    obtain ⟨c, cs, rfl⟩ := List.exists_cons_of_ne_nil hds.ne_nil
    obtain ⟨n, rfl⟩ := Nat.exists_eq_succ_of_ne_zero hn.ne'
    exact ⟨fun c hc => hds.digits c (List.mem_of_mem_take hc), by simp, .inr hlead⟩
  isFraction := by
    rintro cs ⟨⟩
    refine ⟨fun c hc => hds.digits c (List.mem_of_mem_drop hc), ?_⟩
    rw [ne_eq, List.drop_eq_nil_iff]
    omega
  isFloat := .inl (by simp)

theorem value_cut {n : Nat} (hn : 0 < n) (hlen : n < ds.length) (power : Option Int) :
    (cut hds hlead hn hlen power).value =
      (Nat.ofDigitChars 10 ds 0 : ℚ) * 10 ^ (power.getD 0 + n - ds.length) := by
  refine value_eq ?_ ?_
  · show Nat.ofDigitChars 10 (ds.take n ++ ds.drop n) 0 = _
    rw [List.take_append_drop]
  · show power.getD 0 - ((ds.drop n).length : Int) = _
    rw [List.length_drop]
    omega

end

/-- The layout of digits is a spelling of the same number. -/
theorem exists_layout {ds : List Char} (hds : Whole ds) (hlead : ds.head? ≠ some '0')
    (point : Int) :
    ∃ s : Spelling, s.text = Double.layout ds point ∧
      s.value = (Nat.ofDigitChars 10 ds 0 : ℚ) * 10 ^ (point - ds.length) := by
  have hlength : 0 < ds.length := List.length_pos_iff.mpr hds.ne_nil
  rw [Double.layout]
  by_cases hplain : -4 < point ∧ point ≤ 16
  · rw [if_pos hplain]
    by_cases hsmall : point ≤ 0
    · obtain ⟨k, rfl⟩ : ∃ k : Nat, point = -(k : Int) := ⟨(-point).toNat, by omega⟩
      refine ⟨small hds k, ?_, value_small hds k⟩
      rw [if_pos hsmall, neg_neg, Int.toNat_natCast]
      simp [text, small, fractionText, powerText, Text.ofChars, Text.ofString]
    · obtain ⟨n, rfl⟩ := Int.eq_ofNat_of_zero_le (show 0 ≤ point by omega)
      rw [if_neg hsmall, Int.toNat_natCast]
      by_cases hshort : ds.length ≤ n
      · refine ⟨large hds hlead (n - ds.length), ?_, ?_⟩
        · rw [List.take_of_length_le hshort, List.drop_eq_nil_of_le hshort]
          simp [text, large, fractionText, powerText, Text.ofChars, Text.ofString]
        · rw [value_large, Nat.cast_sub hshort]
      · have hne : ds.drop n ≠ [] := by
          rw [ne_eq, List.drop_eq_nil_iff]
          omega
        refine ⟨cut hds hlead (show 0 < n by omega) (by omega) none, ?_, ?_⟩
        · simp [text, cut, fractionText, powerText, Text.ofChars, Text.ofString, hne,
            Nat.sub_eq_zero_of_le (show n ≤ min n ds.length by omega)]
        · rw [value_cut, Option.getD_none, zero_add]
  · rw [if_neg hplain]
    by_cases hshort : ds.length ≤ 1
    · refine ⟨scaled hds (point - 1), ?_, ?_⟩
      · rw [if_pos hshort, List.take_of_length_le hshort]
        simp [text, scaled, fractionText, powerText, Text.ofChars, Text.ofString]
      · rw [value_scaled]
        congr 2
        omega
    · refine ⟨cut hds hlead Nat.one_pos (by omega) (some (point - 1)), ?_, ?_⟩
      · rw [if_neg hshort]
        simp [text, cut, fractionText, powerText, Text.ofChars, Text.ofString]
      · rw [value_cut, Option.getD_some, Nat.cast_one, sub_add_cancel]

end Spelling

/-! ## The shortest text -/

/-- The digits of a positive number that are left when the zeros at the end are taken away. -/
theorem significant_append {d : Nat} (hd : 0 < d) :
    ∃ k, Nat.toDigits 10 d = Double.significant d ++ List.replicate k '0' ∧
      Whole (Double.significant d) ∧ (Double.significant d).head? ≠ some '0' := by
  let zeros := (Nat.toDigits 10 d).reverse.takeWhile (· == '0')
  have hzeros : zeros.reverse = List.replicate zeros.length '0' := by
    rw [List.eq_replicate_iff]
    refine ⟨List.length_reverse, fun c hc => ?_⟩
    have hall := List.all_takeWhile (p := (· == '0')) (l := (Nat.toDigits 10 d).reverse)
    exact eq_of_beq (List.all_eq_true.mp hall c (List.mem_reverse.mp hc))
  have hsplit : Nat.toDigits 10 d = Double.significant d ++ List.replicate zeros.length '0' := by
    rw [← hzeros, Double.significant, ← List.reverse_append, List.takeWhile_append_dropWhile,
      List.reverse_reverse]
  have hne : Double.significant d ≠ [] := by
    intro hnil
    have hvalue := Nat.ofDigitChars_ten_toDigits (n := d)
    rw [hsplit, hnil, List.nil_append, Nat.ofDigitChars_replicate_zero, Nat.mul_zero] at hvalue
    omega
  have hhead : (Double.significant d).head? = (Nat.toDigits 10 d).head? := by
    rw [hsplit, List.head?_append_of_ne_nil _ hne]
  have hlead : (Double.significant d).head? ≠ some '0' := by
    rw [hhead]
    exact head?_toDigits_ne hd
  refine ⟨zeros.length, hsplit, ⟨fun c hc => ?_, hne, .inr hlead⟩, hlead⟩
  refine isDigit_of_mem_toDigits d c ?_
  rw [hsplit]
  exact List.mem_append_left _ hc

/-- The digits of a decimal, laid out around its point, spell that decimal. -/
theorem exists_spelling {d : Nat} (hd : 0 < d) (p : Int) :
    ∃ s : Spelling, s.text = Double.layout (Double.significant d) ((Nat.toDigits 10 d).length + p) ∧
      s.value = (d : ℚ) * 10 ^ p := by
  obtain ⟨k, hsplit, hwhole, hlead⟩ := significant_append hd
  obtain ⟨s, htext, hvalue⟩ :=
    Spelling.exists_layout hwhole hlead ((Nat.toDigits 10 d).length + p)
  refine ⟨s, htext, ?_⟩
  have hlength : (Nat.toDigits 10 d).length = (Double.significant d).length + k := by
    rw [hsplit, List.length_append, List.length_replicate]
  have hd' : d = Nat.ofDigitChars 10 (Double.significant d) 0 * 10 ^ k := by
    have hdigits := Nat.ofDigitChars_ten_toDigits (n := d)
    rw [hsplit, Nat.ofDigitChars_append, Nat.ofDigitChars_replicate_zero] at hdigits
    rw [mul_comm, hdigits]
  have hpoint : ((Nat.toDigits 10 d).length : Int) + p - (Double.significant d).length =
      (k : Int) + p := by
    rw [hlength]
    push_cast
    ring
  rw [hvalue, hpoint, zpow_add₀ (by norm_num), zpow_natCast]
  conv_rhs => rw [hd']
  push_cast
  ring

/-- The shortest text of a number spells a decimal that rounds to it. -/
theorem exists_spelling_text (negative : Bool) {m : Nat} {e : Int} (hfits : Double.Fits m e) :
    ∃ s : Spelling, (Double.finite negative m e).text = signText negative ++ s.text ∧
      Double.ofDecimal negative s.digits s.exponent = .finite negative m e := by
  rw [Double.text]
  by_cases hm : m = 0
  · subst hm
    have he : e = Double.minExponent := hfits.leading.resolve_left (by norm_num)
    subst he
    rw [if_pos rfl]
    exact ⟨⟨['0'], some ['0'], none, whole_zero,
      by rintro cs ⟨⟩; exact ⟨whole_zero.digits, whole_zero.ne_nil⟩, .inl (by simp)⟩, rfl, rfl⟩
  · have hpos : 0 < m := Nat.pos_of_ne_zero hm
    have hrounds := Double.shortest_rounds hfits hpos
    have hd := hrounds.digits_pos hpos
    obtain ⟨s, htext, hvalue⟩ := exists_spelling hd (Double.shortest m e).2
    rw [if_neg hm]
    refine ⟨s, ?_, ?_⟩
    · rw [htext]
      rfl
    · rw [← hvalue] at hrounds
      exact Double.ofDecimal_of_rounds hfits hpos hrounds negative

/-- **A floating-point number is read back from its shortest text.** -/
theorem readNumber?_text {negative : Bool} {m : Nat} {e : Int} (hfits : Double.Fits m e)
    {rest : Text} (hrest : Closes rest) :
    readNumber? ((Double.finite negative m e).text ++ rest) =
      some (.float (.finite negative m e), rest) := by
  obtain ⟨s, htext, hdecimal⟩ := exists_spelling_text negative hfits
  have hhead : (s.text ++ rest).head? ≠ some (.char '-') := by
    rw [Spelling.text, List.append_assoc]
    exact s.isWhole.head?_ne _
  rw [htext, List.append_assoc, readNumber?_signText negative hhead,
    s.readUnsigned?_text negative hrest, hdecimal]

/-! ## Numbers are no words -/

/-- A text that starts with a sign and digits. -/
def Numeric (t : Text) : Prop :=
  ∃ negative c rest, c.isDigit = true ∧ t = signText negative ++ (.char c :: rest)

theorem Whole.numeric {cs : List Char} (h : Whole cs) (negative : Bool) (rest : Text) :
    Numeric (signText negative ++ (Text.ofChars cs ++ rest)) := by
  obtain ⟨c, cs, rfl⟩ := List.exists_cons_of_ne_nil h.ne_nil
  exact ⟨negative, c, Text.ofChars cs ++ rest, h.digits c (List.mem_cons_self ..), rfl⟩

theorem numeric_ofInt (i : Int) (rest : Text) : Numeric (Text.ofInt i ++ rest) := by
  cases i with
  | ofNat n => exact (whole_toDigits n).numeric false rest
  | negSucc n => exact (whole_toDigits (n + 1)).numeric true rest

theorem numeric_text (negative : Bool) {m : Nat} {e : Int} (hfits : Double.Fits m e)
    (rest : Text) : Numeric ((Double.finite negative m e).text ++ rest) := by
  obtain ⟨s, htext, -⟩ := exists_spelling_text negative hfits
  rw [htext, Spelling.text, List.append_assoc, List.append_assoc]
  exact s.isWhole.numeric negative _

theorem afterWord?_ne {w c : Char} (h : c ≠ w) (ws : List Char) (t : Text) :
    afterWord? (w :: ws) (.char c :: t) = none := by
  rw [afterWord?, if_neg]
  intro heq
  exact h (CodePoint.char.inj heq)

/-- What starts like a number is read as a number. -/
theorem Numeric.readScalar? {t : Text} (h : Numeric t) : readScalar? t = readNumber? t := by
  obtain ⟨negative, c, rest, hc, rfl⟩ := h
  have hne : ∀ w : Char, w.isDigit = false → c ≠ w := by
    rintro w hw rfl
    rw [hc] at hw
    cases hw
  cases negative with
  | false =>
    show Json.readScalar? (.char c :: rest) = readNumber? (.char c :: rest)
    rw [Json.readScalar?]
    simp only [List.findSome?_cons, List.findSome?_nil, afterWord?_ne (hne 'n' rfl),
      afterWord?_ne (hne 't' rfl), afterWord?_ne (hne 'f' rfl), afterWord?_ne (hne 'N' rfl),
      afterWord?_ne (hne 'I' rfl), afterWord?_ne (hne '-' rfl), Option.map_none]
  | true =>
    show Json.readScalar? (.char '-' :: .char c :: rest) =
      readNumber? (.char '-' :: .char c :: rest)
    have hminus : afterWord? ['-', 'I', 'n', 'f', 'i', 'n', 'i', 't', 'y']
        (.char '-' :: .char c :: rest) = none := afterWord?_ne (hne 'I' rfl) _ rest
    have hother : ∀ w : Char, '-' ≠ w → ∀ ws, afterWord? (w :: ws)
        (.char '-' :: .char c :: rest) = none := fun w hw ws => afterWord?_ne hw ws _
    rw [Json.readScalar?]
    simp only [List.findSome?_cons, List.findSome?_nil, hother 'n' (by decide),
      hother 't' (by decide), hother 'f' (by decide), hother 'N' (by decide),
      hother 'I' (by decide), hminus, Option.map_none]

/-! ## Numbers hold no marks -/

/-- A text without NUL and without the marks of strings, arrays and objects. -/
def Unmarked (t : Text) : Prop := ∀ c ∈ t, 0 < c.toNat ∧ c ∉ Text.ofString "\x22[]\x7b\x7d"

instance (t : Text) : Decidable (Unmarked t) :=
  inferInstanceAs (Decidable (∀ c ∈ t, 0 < c.toNat ∧ c ∉ Text.ofString "\x22[]\x7b\x7d"))

@[simp] theorem unmarked_append {t t' : Text} : Unmarked (t ++ t') ↔ Unmarked t ∧ Unmarked t' :=
  List.forall_mem_append

theorem unmarked_cons {c : CodePoint} {t : Text} :
    Unmarked (c :: t) ↔ Unmarked [c] ∧ Unmarked t :=
  unmarked_append (t := [c])

theorem unmarked_ofChars {cs : List Char} (h : ∀ c ∈ cs, c.isDigit = true) :
    Unmarked (Text.ofChars cs) := by
  intro c hc
  obtain ⟨c, hmem, rfl⟩ := List.mem_map.mp hc
  have hdigit := h c hmem
  constructor
  · have hrange := toNat_of_isDigit hdigit
    show 0 < c.toNat
    omega
  · have hmarks : ∀ c' ∈ Text.ofString "\x22[]\x7b\x7d", c'.asciiDigit? = none := by decide
    intro hmark
    have hnone := hmarks _ hmark
    rw [CodePoint.asciiDigit?, if_pos hdigit] at hnone
    cases hnone

theorem unmarked_signText (negative : Bool) : Unmarked (signText negative) := by
  cases negative <;> decide

theorem unmarked_ofInt (i : Int) : Unmarked (Text.ofInt i) := by
  cases i with
  | ofNat n => exact unmarked_ofChars (isDigit_of_mem_toDigits n)
  | negSucc n =>
    exact unmarked_cons.mpr ⟨by decide, unmarked_ofChars (isDigit_of_mem_toDigits (n + 1))⟩

theorem unmarked_exponentText (x : Int) : Unmarked (Double.exponentText x) := by
  refine unmarked_cons.mpr ⟨?_, unmarked_ofChars ?_⟩
  · split
    · decide
    · decide
  · exact List.forall_mem_append.mpr ⟨isDigit_replicate _, isDigit_of_mem_toDigits _⟩

theorem Spelling.unmarked_text (s : Spelling) : Unmarked s.text := by
  refine unmarked_append.mpr ⟨unmarked_ofChars s.isWhole.digits, unmarked_append.mpr ⟨?_, ?_⟩⟩
  · cases hfraction : s.fraction with
    | none => decide
    | some cs =>
      exact unmarked_cons.mpr ⟨by decide, unmarked_ofChars (s.isFraction cs hfraction).1⟩
  · cases s.power with
    | none => decide
    | some x => exact unmarked_cons.mpr ⟨by decide, unmarked_exponentText x⟩

theorem unmarked_text (negative : Bool) {m : Nat} {e : Int} (hfits : Double.Fits m e) :
    Unmarked (Double.finite negative m e).text := by
  obtain ⟨s, htext, -⟩ := exists_spelling_text negative hfits
  rw [htext]
  exact unmarked_append.mpr ⟨unmarked_signText negative, s.unmarked_text⟩

end Json

end DartComments
