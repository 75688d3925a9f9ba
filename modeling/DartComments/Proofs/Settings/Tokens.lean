import DartComments.Proofs.Number.Reading
import DartComments.Proofs.Settings

/-!
# The number of tokens

Where nothing but the number of tokens is asked for, everything depends on how it is spelled. A
spelling of a positive integer gives that number, a spelling of another integer is refused as not
positive, and what spells no integer is refused as unreadable (`ofEnvironment_tokensOnly`). Each
positive number can be asked for by its digits.
-/

namespace DartComments

namespace Settings

open Number

/-- An environment in which nothing but the number of tokens is set. -/
def tokensOnly (v : Text) : Environment := [("DARTDOC_MAX_TOKENS", v)]

theorem overrides_tokensOnly (v : Text) : overrides (tokensOnly v) =
    (readVariable (tokensOnly v) "DARTDOC_MAX_TOKENS" readInt? >>= fun n =>
      pure { maxTokens := n }) := by
  rfl

theorem readVariable_tokensOnly {v : Text} (hv : v.strip ≠ []) :
    readVariable (tokensOnly v) "DARTDOC_MAX_TOKENS" readInt? =
      match readInt? v.strip with
      | some n => .ok (some n)
      | none => .error (.unreadable "DARTDOC_MAX_TOKENS" v.strip) := by
  have hgiven : given? (tokensOnly v) "DARTDOC_MAX_TOKENS" = some v.strip := by
    show (if v.strip.isEmpty then none else some v.strip) = _
    exact if_neg (by simpa using hv)
  rw [readVariable, hgiven]
  dsimp only
  cases readInt? v.strip <;> rfl

section

variable {v : Text} {n : Int}

theorem ofEnvironment_tokensOnly_unreadable (hv : v.strip ≠ []) (h : ∀ n, ¬ Numeral v.strip n) :
    ofEnvironment (tokensOnly v) = .error (.unreadable "DARTDOC_MAX_TOKENS" v.strip) := by
  have hread : readInt? v.strip = none :=
    Option.eq_none_iff_forall_ne_some.mpr fun n hn => h n (readInt?_eq_some.mp hn)
  rw [ofEnvironment, overrides_tokensOnly, readVariable_tokensOnly hv, hread]
  rfl

theorem ofEnvironment_tokensOnly (hv : v.strip ≠ []) (h : Numeral v.strip n) :
    ofEnvironment (tokensOnly v) =
      if n ≤ 0 then .error (.notPositive n) else .ok (filled { maxTokens := some n } .chat) := by
  rw [ofEnvironment, overrides_tokensOnly, readVariable_tokensOnly hv, readInt?_eq_some.mpr h]
  have hstyle : (Overrides.style { maxTokens := some n }).getD ApiStyle.chat.text =
      ApiStyle.chat.text := rfl
  exact ofOverrides_of_known hstyle

end

/-! ## Messages -/

theorem message_unreadable (name raw : Text) :
    Text.ofString "Invalid value" <+: (SettingsError.unreadable name raw).message := by
  have hsplit : Text.ofString "Invalid value for " =
      Text.ofString "Invalid value" ++ Text.ofString " for " := by decide +kernel
  rw [SettingsError.message, hsplit]
  simp only [List.append_assoc]
  exact List.prefix_append _ _

theorem message_notPositive (n : Int) :
    Text.ofString "max_tokens must be positive" <+: (SettingsError.notPositive n).message := by
  have hsplit : Text.ofString "max_tokens must be positive, got " =
      Text.ofString "max_tokens must be positive" ++ Text.ofString ", got " := by decide +kernel
  rw [SettingsError.message, hsplit, List.append_assoc]
  exact List.prefix_append _ _

/-- No message says both. -/
theorem not_both_messages {m : Text} (h : Text.ofString "Invalid value" <+: m)
    (h' : Text.ofString "max_tokens must be positive" <+: m) : False := by
  have hprefix := List.prefix_of_prefix_length_le h h' (by decide)
  revert hprefix
  decide

/-! ## Outcomes -/

/-- A text is read for the number of tokens by the grammar of integers and by nothing else. -/
structure ReadByGrammar (v : Text) : Prop where
  taken (n : Nat) : (∃ s, ofEnvironment (tokensOnly v) = .ok s ∧ s.maxTokens = n) ↔
    Numeral v.strip n ∧ 0 < n
  refused : (∃ e, ofEnvironment (tokensOnly v) = .error e) ↔
    ¬ ∃ n : Nat, Numeral v.strip n ∧ 0 < n
  invalid : (∃ e, ofEnvironment (tokensOnly v) = .error e ∧
    Text.ofString "Invalid value" <+: e.message) ↔ ¬ ∃ n, Numeral v.strip n
  notPositive : (∃ e, ofEnvironment (tokensOnly v) = .error e ∧
    Text.ofString "max_tokens must be positive" <+: e.message) ↔ ∃ n, Numeral v.strip n ∧ n ≤ 0

section

variable {v : Text} (hv : v.strip ≠ [])

include hv

theorem readByGrammar_of_pos {n : Nat} (h : Numeral v.strip n) (hn : 0 < n) :
    ReadByGrammar v := by
  have hok : ofEnvironment (tokensOnly v) = .ok (filled { maxTokens := some (n : Int) } .chat) :=
    (ofEnvironment_tokensOnly hv h).trans (if_neg (by omega))
  have herror : ∀ e, ofEnvironment (tokensOnly v) ≠ .error e := by
    intro e he
    cases hok.symm.trans he
  refine ⟨fun m => ⟨?_, ?_⟩, iff_of_false ?_ ?_, iff_of_false ?_ ?_, iff_of_false ?_ ?_⟩
  · rintro ⟨s, hs, rfl⟩
    cases hok.symm.trans hs
    exact ⟨h, hn⟩
  · rintro ⟨hm, -⟩
    obtain rfl : n = m := Int.ofNat.inj (h.unique hm)
    exact ⟨_, hok, rfl⟩
  · exact fun ⟨e, he⟩ => herror e he
  · exact fun hnot => hnot ⟨n, h, hn⟩
  · exact fun ⟨e, he, _⟩ => herror e he
  · exact fun hnot => hnot ⟨n, h⟩
  · exact fun ⟨e, he, _⟩ => herror e he
  · rintro ⟨m, hm, hle⟩
    have hnm := h.unique hm
    omega

theorem readByGrammar_of_nonpos {n : Int} (h : Numeral v.strip n) (hn : n ≤ 0) :
    ReadByGrammar v := by
  have herror : ofEnvironment (tokensOnly v) = .error (.notPositive n) :=
    (ofEnvironment_tokensOnly hv h).trans (if_pos hn)
  have hnot : ∀ m : Nat, Numeral v.strip m → ¬ 0 < m := by
    intro m hm hpos
    have hnm := h.unique hm
    omega
  refine ⟨fun m => iff_of_false ?_ ?_, iff_of_true ⟨_, herror⟩ ?_, iff_of_false ?_ ?_,
    iff_of_true ⟨_, herror, message_notPositive n⟩ ⟨n, h, hn⟩⟩
  · rintro ⟨s, hs, -⟩
    cases herror.symm.trans hs
  · exact fun ⟨hm, hpos⟩ => hnot m hm hpos
  · exact fun ⟨m, hm, hpos⟩ => hnot m hm hpos
  · rintro ⟨e, he, hmessage⟩
    cases herror.symm.trans he
    exact not_both_messages hmessage (message_notPositive n)
  · exact fun hnone => hnone ⟨n, h⟩

theorem readByGrammar_of_none (h : ∀ n, ¬ Numeral v.strip n) : ReadByGrammar v := by
  have herror := ofEnvironment_tokensOnly_unreadable hv h
  refine ⟨fun m => iff_of_false ?_ ?_, iff_of_true ⟨_, herror⟩ ?_,
    iff_of_true ⟨_, herror, message_unreadable _ _⟩ ?_, iff_of_false ?_ ?_⟩
  · rintro ⟨s, hs, -⟩
    cases herror.symm.trans hs
  · exact fun ⟨hm, _⟩ => h m hm
  · exact fun ⟨m, hm, _⟩ => h m hm
  · exact fun ⟨m, hm⟩ => h m hm
  · rintro ⟨e, he, hmessage⟩
    cases herror.symm.trans he
    exact not_both_messages (message_unreadable _ _) hmessage
  · exact fun ⟨m, hm, _⟩ => h m hm

theorem readByGrammar : ReadByGrammar v := by
  by_cases h : ∃ n, Numeral v.strip n
  · obtain ⟨n, hn⟩ := h
    by_cases hpos : n ≤ 0
    · exact readByGrammar_of_nonpos hv hn hpos
    · obtain ⟨k, rfl⟩ := Int.eq_ofNat_of_zero_le (by omega : 0 ≤ n)
      exact readByGrammar_of_pos hv hn (by omega)
  · exact readByGrammar_of_none hv fun n hn => h ⟨n, hn⟩

end

/-! ## Numbers as they are written -/

theorem isBlank_eq_false_of_isDigit {c : Char} (h : c.isDigit = true) :
    CodePoint.isBlank (.char c) = false := by
  have hrange := toNat_of_isDigit h
  have hapart : ∀ r ∈ CodePoint.blankRanges, r.2 < 48 ∨ 57 < r.1 := by decide
  refine List.any_eq_false.mpr fun r hr => ?_
  have hr := hapart r hr
  show ¬ (decide (r.1 ≤ c.toNat) && decide (c.toNat ≤ r.2)) = true
  rw [Bool.and_eq_true, decide_eq_true_eq, decide_eq_true_eq]
  omega

theorem strip_ofNat (n : Nat) : (Text.ofNat n).strip = Text.ofNat n := by
  refine Text.strip_eq_self fun c hc => ?_
  obtain ⟨d, hd, rfl⟩ := List.mem_map.mp hc
  exact isBlank_eq_false_of_isDigit (isDigit_of_mem_toDigits n d hd)

theorem strip_ofNat_ne_nil (n : Nat) : (Text.ofNat n).strip ≠ [] := by
  rw [strip_ofNat, Text.ofNat, Text.ofChars, ne_eq, List.map_eq_nil_iff]
  exact Nat.toDigits_ne_nil

/-- **The number of tokens.** A text that is not blank gives a number of tokens exactly when, without
the blanks around it, it spells that number and the number is positive. Everything else is refused:
as an invalid value exactly when it spells no integer, and as not positive exactly when it spells one
that is not. The digits of a positive number give that number back. -/
theorem tokens_read_by_grammar :
    (∀ v : Text, (∃ c ∈ v, c.isBlank = false) → ReadByGrammar v) ∧
      ∀ n : Nat, 0 < n → (Text.ofNat n).length ≤ 4300 →
        ∃ s, ofEnvironment (tokensOnly (Text.ofNat n)) = .ok s ∧ s.maxTokens = n := by
  constructor
  · rintro v ⟨c, hc, hsolid⟩
    refine readByGrammar fun hempty => ?_
    rw [Text.strip_eq_nil_iff.mp hempty c hc] at hsolid
    cases hsolid
  · intro n hn h
    have hnumeral : Numeral (Text.ofNat n).strip n := by
      rw [strip_ofNat]
      exact numeral_ofNat h
    exact ((readByGrammar (strip_ofNat_ne_nil n)).taken n).mpr ⟨hnumeral, hn⟩

/-- Digits of three scripts with a sign before them, an underscore between two of them and blanks
around them. -/
def mixedDigits : Text := "\u00a0 +1_\u0662\uff13\u3000"

theorem mixedDigits_taken : (∃ c ∈ mixedDigits, c.isBlank = false) ∧
    ∃ s, ofEnvironment (tokensOnly mixedDigits) = .ok s ∧ s.maxTokens = 123 := by
  have hsolid : ∃ c ∈ mixedDigits, c.isBlank = false := by decide
  have hnumeral : Numeral mixedDigits.strip (123 : Nat) := readInt?_eq_some.mp (by decide +kernel)
  have hread := tokens_read_by_grammar.1 mixedDigits hsolid
  exact ⟨hsolid, (hread.taken 123).mpr ⟨hnumeral, by decide⟩⟩

end Settings

end DartComments
