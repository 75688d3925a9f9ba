import DartComments.Json.Encoding
import DartComments.Proofs.Json.Writer

/-!
# Documents from their bytes

A text without surrogates is read back from its UTF-8 character by character
(`Utf8.decodeWide?_flatMap`). A document that starts with an ASCII character and holds no NUL is
never taken for UTF-16 or UTF-32, for in these one of its first bytes would be zero, so it is read
back from its bytes (`decode?_of_encode`).
-/

namespace DartComments

namespace Utf8

/-! ## Sequences -/

theorem toNat_toUInt8 {n : Nat} (h : n < 256) : n.toUInt8.toNat = n :=
  UInt8.toNat_ofNat_of_lt h

theorem isContinuation_of_range {b : UInt8} (h : 0x80 ≤ b.toNat ∧ b.toNat ≤ 0xBF) :
    isContinuation b = true := by
  simpa [isContinuation] using h

/-- Which bytes may follow a leading byte. -/
theorem isSecond_of_range {b0 b1 : UInt8} (hlow : 0x80 ≤ b1.toNat) (hhigh : b1.toNat ≤ 0xBF)
    (he0 : b0.toNat = 0xE0 → 0xA0 ≤ b1.toNat) (hf0 : b0.toNat = 0xF0 → 0x90 ≤ b1.toNat)
    (hed : b0.toNat = 0xED → b1.toNat ≤ 0x9F) (hf4 : b0.toNat = 0xF4 → b1.toNat ≤ 0x8F) :
    isSecond b0 b1 = true := by
  have he0' : b0 = 0xE0 ↔ b0.toNat = 0xE0 := UInt8.toNat_inj.symm
  have hf0' : b0 = 0xF0 ↔ b0.toNat = 0xF0 := UInt8.toNat_inj.symm
  have hed' : b0 = 0xED ↔ b0.toNat = 0xED := UInt8.toNat_inj.symm
  have hf4' : b0 = 0xF4 ↔ b0.toNat = 0xF4 := UInt8.toNat_inj.symm
  simp only [isSecond, Bool.and_eq_true, decide_eq_true_eq, he0', hf0', hed', hf4']
  constructor
  · split
    · next h => exact he0 h
    · split
      · next h => exact hf0 h
      · exact hlow
  · split
    · next h => exact hed h
    · split
      · next h => exact hf4 h
      · exact hhigh

theorem following?_of_range {b : UInt8} :
    (0xC2 ≤ b.toNat → b.toNat < 0xE0 → following? b = some 1) ∧
      (0xE0 ≤ b.toNat → b.toNat < 0xF0 → following? b = some 2) ∧
      (0xF0 ≤ b.toNat → b.toNat < 0xF5 → following? b = some 3) := by
  simp only [following?]
  refine ⟨fun hlow hhigh => ?_, fun hlow hhigh => ?_, fun hlow hhigh => ?_⟩
  · rw [if_neg (by omega), if_neg (by omega), if_pos (by omega)]
  · rw [if_neg (by omega), if_neg (by omega), if_neg (by omega), if_pos (by omega)]
  · rw [if_neg (by omega), if_neg (by omega), if_neg (by omega), if_neg (by omega),
      if_pos (by omega)]

theorem sequence?_two {b0 b1 : UInt8} (hb : 0xC2 ≤ b0.toNat ∧ b0.toNat < 0xE0)
    (h1 : isSecond b0 b1 = true) (rest : Bytes) :
    sequence? b0 (b1 :: rest) = some (Char.ofNat ((b0.toNat - 0xC0) * 64 + payload b1), 1) := by
  unfold sequence?
  rw [following?_of_range.1 hb.1 hb.2]
  exact if_pos h1

theorem sequence?_three {b0 b1 b2 : UInt8} (hb : 0xE0 ≤ b0.toNat ∧ b0.toNat < 0xF0)
    (h1 : isSecond b0 b1 = true) (h2 : isContinuation b2 = true) (rest : Bytes) :
    sequence? b0 (b1 :: b2 :: rest) =
      some (Char.ofNat (((b0.toNat - 0xE0) * 64 + payload b1) * 64 + payload b2), 2) := by
  unfold sequence?
  rw [following?_of_range.2.1 hb.1 hb.2]
  exact if_pos (by rw [h1, h2]; rfl)

theorem sequence?_four {b0 b1 b2 b3 : UInt8} (hb : 0xF0 ≤ b0.toNat ∧ b0.toNat < 0xF5)
    (h1 : isSecond b0 b1 = true) (h2 : isContinuation b2 = true) (h3 : isContinuation b3 = true)
    (rest : Bytes) : sequence? b0 (b1 :: b2 :: b3 :: rest) = some (Char.ofNat
      ((((b0.toNat - 0xF0) * 64 + payload b1) * 64 + payload b2) * 64 + payload b3), 3) := by
  unfold sequence?
  rw [following?_of_range.2.2 hb.1 hb.2]
  exact if_pos (by rw [h1, h2, h3]; rfl)

/-- A character is read back from its bytes, whatever follows. -/
theorem exists_sequence? (c : Char) : ∃ b tail, encodeChar c = b :: tail ∧
    ∀ rest, sequence? b (tail ++ rest) = some (c, tail.length) := by
  have hback : Char.ofNat c.toNat = c := Char.ofNat_toNat c
  have hvalid : c.toNat < 0xD800 ∨ 0xDFFF < c.toNat ∧ c.toNat < 0x110000 := c.valid
  generalize hn : c.toNat = n at hback hvalid
  simp only [encodeChar, hn]
  by_cases h1 : n < 0x80
  · rw [if_pos h1]
    have hb : n.toUInt8.toNat = n := toNat_toUInt8 (by omega)
    refine ⟨_, [], rfl, fun rest => ?_⟩
    rw [List.nil_append, sequence?_of_lt (by omega), hb, hback]
    rfl
  rw [if_neg h1]
  by_cases h2 : n < 0x800
  · rw [if_pos h2]
    refine ⟨_, _, rfl, fun rest => ?_⟩
    have hb0 : (0xC0 + n / 64).toUInt8.toNat = 0xC0 + n / 64 := toNat_toUInt8 (by omega)
    have hb1 : (0x80 + n % 64).toUInt8.toNat = 0x80 + n % 64 := toNat_toUInt8 (by omega)
    generalize (0xC0 + n / 64).toUInt8 = b0 at hb0
    generalize (0x80 + n % 64).toUInt8 = b1 at hb1
    have hsecond : isSecond b0 b1 = true := by
      apply isSecond_of_range <;> omega
    have hvalue : (b0.toNat - 0xC0) * 64 + payload b1 = n := by
      unfold payload
      omega
    refine (sequence?_two (by omega) hsecond rest).trans ?_
    rw [hvalue, hback]
    rfl
  rw [if_neg h2]
  by_cases h3 : n < 0x10000
  · rw [if_pos h3]
    refine ⟨_, _, rfl, fun rest => ?_⟩
    have hb0 : (0xE0 + n / 4096).toUInt8.toNat = 0xE0 + n / 4096 := toNat_toUInt8 (by omega)
    have hb1 : (0x80 + n / 64 % 64).toUInt8.toNat = 0x80 + n / 64 % 64 := toNat_toUInt8 (by omega)
    have hb2 : (0x80 + n % 64).toUInt8.toNat = 0x80 + n % 64 := toNat_toUInt8 (by omega)
    generalize (0xE0 + n / 4096).toUInt8 = b0 at hb0
    generalize (0x80 + n / 64 % 64).toUInt8 = b1 at hb1
    generalize (0x80 + n % 64).toUInt8 = b2 at hb2
    have hsecond : isSecond b0 b1 = true := by
      apply isSecond_of_range <;> omega
    have hthird : isContinuation b2 = true := isContinuation_of_range (by omega)
    have hvalue : ((b0.toNat - 0xE0) * 64 + payload b1) * 64 + payload b2 = n := by
      unfold payload
      omega
    refine (sequence?_three (by omega) hsecond hthird rest).trans ?_
    rw [hvalue, hback]
    rfl
  · rw [if_neg h3]
    refine ⟨_, _, rfl, fun rest => ?_⟩
    have hb0 : (0xF0 + n / 262144).toUInt8.toNat = 0xF0 + n / 262144 := toNat_toUInt8 (by omega)
    have hb1 : (0x80 + n / 4096 % 64).toUInt8.toNat = 0x80 + n / 4096 % 64 :=
      toNat_toUInt8 (by omega)
    have hb2 : (0x80 + n / 64 % 64).toUInt8.toNat = 0x80 + n / 64 % 64 := toNat_toUInt8 (by omega)
    have hb3 : (0x80 + n % 64).toUInt8.toNat = 0x80 + n % 64 := toNat_toUInt8 (by omega)
    generalize (0xF0 + n / 262144).toUInt8 = b0 at hb0
    generalize (0x80 + n / 4096 % 64).toUInt8 = b1 at hb1
    generalize (0x80 + n / 64 % 64).toUInt8 = b2 at hb2
    generalize (0x80 + n % 64).toUInt8 = b3 at hb3
    have hsecond : isSecond b0 b1 = true := by
      apply isSecond_of_range <;> omega
    have hthird : isContinuation b2 = true := isContinuation_of_range (by omega)
    have hfourth : isContinuation b3 = true := isContinuation_of_range (by omega)
    have hvalue : (((b0.toNat - 0xF0) * 64 + payload b1) * 64 + payload b2) * 64 + payload b3 =
        n := by
      unfold payload
      omega
    refine (sequence?_four (by omega) hsecond hthird hfourth rest).trans ?_
    rw [hvalue, hback]
    rfl

theorem decodeWideFrom?_append (skipped rest : Bytes) :
    decodeWideFrom? skipped.length (skipped ++ rest) = decodeWideFrom? 0 rest := by
  induction skipped with
  | nil => rfl
  | cons b skipped ih => exact ih

/-- A text is read back from its UTF-8. -/
theorem decodeWide?_flatMap {t : Text} (h : t.SurrogateFree) :
    decodeWide? (t.flatMap encodePoint) = some t := by
  induction t with
  | nil => rfl
  | cons c t ih =>
    obtain ⟨hc, ht⟩ := Text.surrogateFree_cons.mp h
    cases c with
    | surrogate i => cases hc
    | char c =>
      obtain ⟨b, tail, hbytes, hsequence⟩ := exists_sequence? c
      have hstep : wideStep? b (tail ++ t.flatMap encodePoint) = some (.char c, tail.length) := by
        unfold wideStep?
        rw [hsequence]
      have hrest : decodeWideFrom? 0 (t.flatMap encodePoint) = some t := ih ht
      show decodeWideFrom? 0 (encodeChar c ++ t.flatMap encodePoint) = _
      rw [hbytes, List.cons_append, decodeWideFrom?, hstep]
      show (decodeWideFrom? tail.length (tail ++ t.flatMap encodePoint)).bind _ = _
      rw [decodeWideFrom?_append, hrest]
      rfl

end Utf8

/-- The bytes of a character that is not NUL are not zero. -/
theorem Utf8.ne_zero_of_mem_encodeChar {c : Char} (hc : 0 < c.toNat) :
    ∀ b ∈ encodeChar c, b ≠ 0 := by
  have hvalid : c.toNat < 0xD800 ∨ 0xDFFF < c.toNat ∧ c.toNat < 0x110000 := c.valid
  have hne : ∀ n : Nat, 0 < n → n < 256 → n.toUInt8 ≠ 0 := by
    intro n hpos hlt hzero
    have hnat := toNat_toUInt8 hlt
    rw [hzero] at hnat
    have hzero' : (0 : UInt8).toNat = 0 := rfl
    omega
  unfold encodeChar
  dsimp only
  split
  · exact List.forall_mem_singleton.mpr (hne _ hc (by omega))
  split
  · simp only [List.mem_cons, List.not_mem_nil, or_false, forall_eq_or_imp, forall_eq]
    exact ⟨hne _ (by omega) (by omega), hne _ (by omega) (by omega)⟩
  split
  · simp only [List.mem_cons, List.not_mem_nil, or_false, forall_eq_or_imp, forall_eq]
    exact ⟨hne _ (by omega) (by omega), hne _ (by omega) (by omega), hne _ (by omega) (by omega)⟩
  · simp only [List.mem_cons, List.not_mem_nil, or_false, forall_eq_or_imp, forall_eq]
    exact ⟨hne _ (by omega) (by omega), hne _ (by omega) (by omega), hne _ (by omega) (by omega),
      hne _ (by omega) (by omega)⟩

namespace Json

/-- No byte order mark starts with an ASCII character. -/
theorem head?_mark : ∀ m ∈ marks, ∃ b, m.1.head? = some b ∧ (b = 0 ∨ 0x80 ≤ b.toNat) := by
  simp only [marks, List.mem_cons, List.not_mem_nil, or_false, forall_eq_or_imp, forall_eq,
    List.head?_cons, Option.some.injEq, exists_eq_left']
  decide

/-- Bytes without zeros that start with an ASCII character are taken for UTF-8. -/
theorem detect_eq {bytes : Bytes} (hzero : ∀ b ∈ bytes, b ≠ 0)
    (hhead : ∀ b, bytes.head? = some b → b.toNat < 0x80) : detect bytes = (.utf8, bytes) := by
  have hmarks : (marks.find? fun m => m.1.isPrefixOf bytes) = none := by
    refine List.find?_eq_none.mpr fun m hm hprefix => ?_
    obtain ⟨rest, rfl⟩ := List.isPrefixOf_iff_prefix.mp hprefix
    obtain ⟨b, hb, hmark⟩ := head?_mark m hm
    obtain ⟨tail, htail⟩ := List.head?_eq_some_iff.mp hb
    rw [htail] at hzero hhead
    rcases hmark with h | h
    · exact hzero b (List.mem_cons_self ..) h
    · have hascii := hhead b rfl
      omega
  have hplain : encodingOf bytes = .utf8 := by
    unfold encodingOf
    split
    · rw [if_neg (hzero _ (by simp)), if_neg (hzero _ (by simp))]
    · rw [if_neg (hzero _ (by simp)), if_neg (hzero _ (by simp))]
    · rfl
  rw [detect, hmarks, hplain]

/-- A document is read back from its bytes. -/
theorem decode?_of_encode {t : Text} {bytes : Bytes} (h : Utf8.encode t = .ok bytes)
    (hzero : ∀ c ∈ t, 0 < c.toNat) (hhead : ∀ c, t.head? = some c → c.isAscii = true) :
    decode? bytes = some t := by
  have hfree : t.SurrogateFree := Utf8.encode_ok_iff.mp ⟨bytes, h⟩
  have hbytes : bytes = t.flatMap Utf8.encodePoint := by
    rw [Utf8.encode, Utf8.find?_eq_none.mpr hfree] at h
    cases h
    rfl
  subst hbytes
  have hzero' : ∀ b ∈ t.flatMap Utf8.encodePoint, b ≠ 0 := by
    intro b hb
    obtain ⟨c, hc, hb⟩ := List.mem_flatMap.mp hb
    cases c with
    | char c => exact Utf8.ne_zero_of_mem_encodeChar (hzero _ hc) b hb
    | surrogate i => cases hfree _ hc
  have hhead' : ∀ b, (t.flatMap Utf8.encodePoint).head? = some b → b.toNat < 0x80 := by
    cases t with
    | nil =>
      intro b hb
      cases hb
    | cons c t =>
      have hascii := hhead c rfl
      cases c with
      | surrogate i => cases hfree _ (List.mem_cons_self ..)
      | char c =>
        have hlt : c.toNat < 0x80 := of_decide_eq_true hascii
        intro b hb
        have hone : Utf8.encodeChar c = [c.toNat.toUInt8] := if_pos hlt
        rw [List.flatMap_cons, Utf8.encodePoint, hone] at hb
        cases hb
        rw [Utf8.toNat_toUInt8 (by omega)]
        exact hlt
  rw [decode?, detect_eq hzero' hhead']
  exact Utf8.decodeWide?_flatMap hfree

end Json

end DartComments
