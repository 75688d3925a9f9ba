import DartComments.Number.Reading
import Mathlib.Data.List.Induction
import Mathlib.Data.Nat.Digits.Defs

/-!
# Integers as they are spelled

An integer is spelled with a sign or none and with digits of any script, where a single underscore
may stand between two of them; its value is that of the digits in base ten (`Numeral`). Reading
accepts exactly these spellings,

    readInt? t = some n ↔ Numeral t n                                    (readInt?_eq_some)

and the digits that a number is written with are one of them (`numeral_ofNat`).
-/

namespace DartComments

/-! ## Digits from zero to nine -/

namespace Number

def digitValue (c : Char) : Nat := c.toNat - 48

theorem ofDigitValues_map (cs : List Char) :
    Text.ofDigitValues (cs.map digitValue) = Nat.ofDigitChars 10 cs 0 := by
  rw [Text.ofDigitValues, Nat.ofDigitChars, List.foldl_map]
  congr 1
  funext n c
  rw [Nat.mul_comm]
  rfl

theorem toNat_of_isDigit {c : Char} (h : c.isDigit = true) : 48 ≤ c.toNat ∧ c.toNat ≤ 57 := by
  simpa [Char.isDigit, Char.le_def, UInt32.le_iff_toNat_le] using h

theorem isDigit_of_mem_toDigits (n : Nat) : ∀ c ∈ Nat.toDigits 10 n, c.isDigit = true :=
  fun _ hc => Nat.isDigit_of_mem_toDigits (by decide) (by decide) hc

end Number

/-! ## Digits of any script -/

namespace CodePoint

/-- A digit of some script: so many code points after the zero of the script. -/
def IsDigit (c : CodePoint) (d : Nat) : Prop := d ≤ 9 ∧ ∃ z ∈ zeros, c.toNat = z + d

/-- There is room for ten digits from one zero to the next. -/
theorem zeros_apart : ∀ z ∈ zeros, ∀ z' ∈ zeros, z < z' → z + 10 ≤ z' := by
  decide +kernel

theorem digit?_eq_some {c : CodePoint} {d : Nat} : c.digit? = some d ↔ c.IsDigit d := by
  rw [digit?, Option.map_eq_some_iff]
  constructor
  · rintro ⟨z, hz, rfl⟩
    have hrange := List.find?_some hz
    simp only [Bool.and_eq_true, decide_eq_true_eq] at hrange
    exact ⟨by omega, z, List.mem_of_find?_eq_some hz, by omega⟩
  · rintro ⟨hd, z, hz, hc⟩
    cases hfind : zeros.find? fun z => z ≤ c.toNat && c.toNat ≤ z + 9 with
    | none =>
      have hnone := List.find?_eq_none.mp hfind z hz
      simp only [Bool.and_eq_true, decide_eq_true_eq] at hnone
      omega
    | some z' =>
      have hrange := List.find?_some hfind
      simp only [Bool.and_eq_true, decide_eq_true_eq] at hrange
      have hz' := List.mem_of_find?_eq_some hfind
      have hbelow := zeros_apart z hz z' hz'
      have habove := zeros_apart z' hz' z hz
      exact ⟨z', rfl, by omega⟩

theorem digit?_char {c : Char} (h : c.isDigit = true) : digit? (.char c) = some (c.toNat - 48) := by
  have hrange := Number.toNat_of_isDigit h
  have hzero : (48 : Nat) ∈ zeros := List.mem_cons_self
  refine digit?_eq_some.mpr ⟨by omega, 48, hzero, ?_⟩
  show c.toNat = _
  omega

end CodePoint

namespace Number

/-! ## Spellings of integers -/

/-- Digits with single underscores between some of them, and their values. -/
inductive Grouped : Text → List Nat → Prop
  | last {c : CodePoint} {d : Nat} : c.IsDigit d → Grouped [c] [d]
  | next {c : CodePoint} {d : Nat} {t : Text} {ds : List Nat} :
      c.IsDigit d → Grouped t ds → Grouped (c :: t) (d :: ds)
  | apart {c : CodePoint} {d : Nat} {t : Text} {ds : List Nat} :
      c.IsDigit d → Grouped t ds → Grouped (c :: .char '_' :: t) (d :: ds)

/-- A sign or none, and the factor it stands for. -/
inductive Sign : Text → Int → Prop
  | none : Sign [] 1
  | plus : Sign [.char '+'] 1
  | minus : Sign [.char '-'] (-1)

/-- A sign or none before at most 4300 digits, and the integer they spell in base ten. -/
inductive Numeral : Text → Int → Prop
  | mk {sign digits : Text} {factor : Int} {ds : List Nat} : Sign sign factor →
      Grouped digits ds → ds.length ≤ 4300 →
      Numeral (sign ++ digits) (factor * (Nat.ofDigits 10 ds.reverse : Nat))

/-- What may follow a digit: nothing, more digits, or an underscore and more digits. -/
def FollowsDigit (t : Text) (ds : List Nat) : Prop :=
  t = [] ∧ ds = [] ∨ Grouped t ds ∨ ∃ u, t = .char '_' :: u ∧ Grouped u ds

theorem grouped_cons {c : CodePoint} {t : Text} {ds : List Nat} : Grouped (c :: t) ds ↔
    ∃ d rest, c.IsDigit d ∧ FollowsDigit t rest ∧ ds = d :: rest := by
  constructor
  · intro h
    cases h with
    | last hd => exact ⟨_, _, hd, .inl ⟨rfl, rfl⟩, rfl⟩
    | next hd ht => exact ⟨_, _, hd, .inr (.inl ht), rfl⟩
    | apart hd hu => exact ⟨_, _, hd, .inr (.inr ⟨_, rfl, hu⟩), rfl⟩
  · rintro ⟨d, rest, hd, ⟨rfl, rfl⟩ | ht | ⟨u, rfl, hu⟩, rfl⟩
    · exact .last hd
    · exact .next hd ht
    · exact .apart hd hu

section

variable {c : CodePoint} {t : Text} {ds : List Nat}

theorem grouped_cons_of_digit {d : Nat} (hc : c.digit? = some d) : Grouped (c :: t) ds ↔
    ∃ rest, FollowsDigit t rest ∧ d :: rest = ds := by
  rw [grouped_cons]
  constructor
  · rintro ⟨d', rest, hd, hrest, rfl⟩
    obtain rfl : d = d' := Option.some.inj (hc.symm.trans (CodePoint.digit?_eq_some.mpr hd))
    exact ⟨rest, hrest, rfl⟩
  · rintro ⟨rest, hrest, rfl⟩
    exact ⟨d, rest, CodePoint.digit?_eq_some.mp hc, hrest, rfl⟩

theorem not_grouped_cons (hc : c.digit? = none) : ¬ Grouped (c :: t) ds := by
  intro h
  obtain ⟨d, rest, hd, -⟩ := grouped_cons.mp h
  cases hc.symm.trans (CodePoint.digit?_eq_some.mpr hd)

theorem followsDigit_cons_of_digit {d : Nat} (hc : c.digit? = some d) :
    FollowsDigit (c :: t) ds ↔ Grouped (c :: t) ds := by
  constructor
  · rintro (⟨h, -⟩ | h | ⟨u, h, -⟩)
    · cases h
    · exact h
    · cases h
      cases (show CodePoint.digit? (.char '_') = none by decide).symm.trans hc
  · exact fun h => .inr (.inl h)

theorem followsDigit_cons_of_none (hc : c.digit? = none) :
    FollowsDigit (c :: t) ds ↔ c = .char '_' ∧ Grouped t ds := by
  constructor
  · rintro (⟨h, -⟩ | h | ⟨u, h, hu⟩)
    · cases h
    · exact absurd h (not_grouped_cons hc)
    · cases h
      exact ⟨rfl, hu⟩
  · rintro ⟨rfl, ht⟩
    exact .inr (.inr ⟨t, rfl, ht⟩)

end

/-- Reading groups of digits, at their beginning and after a digit. -/
theorem groupedDigits?_iff (t : Text) : ∀ ds, (groupedDigits? false t = some ds ↔ Grouped t ds) ∧
    (groupedDigits? true t = some ds ↔ FollowsDigit t ds) := by
  induction t with
  | nil =>
    intro ds
    constructor
    · exact iff_of_false nofun nofun
    · show some [] = some ds ↔ _
      rw [Option.some_inj]
      constructor
      · rintro rfl
        exact .inl ⟨rfl, rfl⟩
      · rintro (⟨-, h⟩ | h | ⟨u, h, -⟩)
        · exact h.symm
        · cases h
        · cases h
  | cons c t ih =>
    intro ds
    cases hc : c.digit? with
    | some d =>
      -- A digit is read in the same way in both places.
      have hread (afterDigit : Bool) :
          groupedDigits? afterDigit (c :: t) = some ds ↔ Grouped (c :: t) ds := by
        rw [groupedDigits?, hc, grouped_cons_of_digit hc]
        dsimp only
        rw [Option.map_eq_some_iff]
        exact exists_congr fun rest => and_congr_left' (ih rest).2
      exact ⟨hread false, (hread true).trans (followsDigit_cons_of_digit hc).symm⟩
    | none =>
      constructor
      · rw [groupedDigits?, hc]
        exact iff_of_false (by simp) (not_grouped_cons hc)
      · rw [groupedDigits?, hc, followsDigit_cons_of_none hc, ← (ih ds).1]
        by_cases hmark : c = .char '_'
        · simp [hmark]
        · simp [hmark]

theorem groupedDigits?_eq_some {t : Text} {ds : List Nat} :
    groupedDigits? false t = some ds ↔ Grouped t ds := (groupedDigits?_iff t ds).1

theorem ofDigitValues_eq (ds : List Nat) : Text.ofDigitValues ds = Nat.ofDigits 10 ds.reverse := by
  induction ds using List.reverseRecOn with
  | nil => rfl
  | append_singleton ds d ih =>
    rw [List.reverse_append, List.reverse_singleton, List.singleton_append, Nat.ofDigits_cons, ← ih,
      Text.ofDigitValues, List.foldl_append, List.foldl_cons, List.foldl_nil, Nat.mul_comm,
      Nat.add_comm]
    rfl

/-! ## Signs -/

def signFactor (negative : Bool) : Int := if negative then -1 else 1

/-- What `splitSign` takes off a text is a sign or nothing. -/
theorem sign_splitSign (t : Text) : ∃ sign, t = sign ++ (splitSign t).2 ∧
    Sign sign (signFactor (splitSign t).1) := by
  rw [splitSign.eq_def]
  split
  · exact ⟨_, rfl, .minus⟩
  · exact ⟨_, rfl, .plus⟩
  · exact ⟨_, rfl, .none⟩

theorem splitSign_sign {sign digits : Text} {factor : Int} {ds : List Nat} (h : Sign sign factor)
    (hdigits : Grouped digits ds) :
    (splitSign (sign ++ digits)).2 = digits ∧
      signFactor (splitSign (sign ++ digits)).1 = factor := by
  cases h with
  | plus => exact ⟨rfl, rfl⟩
  | minus => exact ⟨rfl, rfl⟩
  | none =>
    -- A sign is no digit, so nothing is taken off the digits.
    have hsplit : splitSign digits = (false, digits) := by
      rw [splitSign.eq_def]
      split
      · exact absurd hdigits (not_grouped_cons (by decide))
      · exact absurd hdigits (not_grouped_cons (by decide))
      · rfl
    rw [List.nil_append, hsplit]
    exact ⟨rfl, rfl⟩

theorem readInt?_eq (t : Text) : readInt? t =
    (groupedDigits? false (splitSign t).2).bind fun ds =>
      if digitLimit < ds.length then none
      else some (signFactor (splitSign t).1 * Text.ofDigitValues ds) := by
  rw [readInt?]
  obtain ⟨negative, digits⟩ := splitSign t
  dsimp only
  cases groupedDigits? false digits with
  | none => rfl
  | some ds => cases negative <;> simp [signFactor]

/-- Exactly the spellings of integers are read. -/
theorem readInt?_eq_some {t : Text} {n : Int} : readInt? t = some n ↔ Numeral t n := by
  rw [readInt?_eq, Option.bind_eq_some_iff]
  constructor
  · rintro ⟨ds, hds, h⟩
    split at h
    · cases h
    · next hlimit =>
      obtain ⟨sign, ht, hsign⟩ := sign_splitSign t
      rw [ht, ← Option.some.inj h, ofDigitValues_eq]
      exact .mk hsign (groupedDigits?_eq_some.mp hds) (Nat.le_of_not_lt hlimit)
  · rintro ⟨hsign, hdigits, hlimit⟩
    obtain ⟨hrest, hfactor⟩ := splitSign_sign hsign hdigits
    refine ⟨_, groupedDigits?_eq_some.mpr (hrest.symm ▸ hdigits), ?_⟩
    rw [if_neg (show ¬ digitLimit < _ from Nat.not_lt_of_le hlimit), hfactor, ofDigitValues_eq]

theorem Numeral.unique {t : Text} {n m : Int} (hn : Numeral t n) (hm : Numeral t m) : n = m :=
  Option.some.inj ((readInt?_eq_some.mpr hn).symm.trans (readInt?_eq_some.mpr hm))

/-! ## Numbers as they are written -/

theorem grouped_ofChars {cs : List Char} (hne : cs ≠ []) (hcs : ∀ c ∈ cs, c.isDigit = true) :
    Grouped (Text.ofChars cs) (cs.map digitValue) := by
  induction cs with
  | nil => exact absurd rfl hne
  | cons c cs ih =>
    rw [List.forall_mem_cons] at hcs
    have hdigit := CodePoint.digit?_eq_some.mp (CodePoint.digit?_char hcs.1)
    cases cs with
    | nil => exact .last hdigit
    | cons c' cs => exact .next hdigit (ih (List.cons_ne_nil _ _) hcs.2)

/-- The digits of a number are a spelling of it. -/
theorem numeral_ofNat {n : Nat} (h : (Text.ofNat n).length ≤ 4300) : Numeral (Text.ofNat n) n := by
  have hdigits := grouped_ofChars Nat.toDigits_ne_nil (isDigit_of_mem_toDigits n)
  have hlength : ((Nat.toDigits 10 n).map digitValue).length ≤ 4300 := by
    rwa [List.length_map, ← List.length_map (f := CodePoint.char)]
  have hvalue : Nat.ofDigits 10 ((Nat.toDigits 10 n).map digitValue).reverse = n := by
    rw [← ofDigitValues_eq, ofDigitValues_map, Nat.ofDigitChars_ten_toDigits]
  have hnumeral := Numeral.mk .none hdigits hlength
  rwa [hvalue, one_mul] at hnumeral

end Number

end DartComments
