import DartComments.Text.Utf8

/-!
# Nothing is lost in reading a source

Reading with escapes and writing again gives the bytes back, whatever they are, and the code points
cut the bytes into pieces: each is written as the bytes it was read from.

    (decodeEscaped bytes).flatMap encodePoint = bytes                (flatMap_decodeEscaped)
    encodeEscaped (decodeEscaped bytes) = .ok bytes                  (encodeEscaped_decodeEscaped)

A `boundary` is an offset between two code points. The part of a text between two code point offsets
is written as the bytes between the two boundaries (`encodeEscaped_slice`).
-/

namespace DartComments

namespace Utf8

/-! ## Sequences -/

theorem toUInt8_eq {n : Nat} {b : UInt8} (h : n = b.toNat) : n.toUInt8 = b := by
  subst h
  simp

theorem toNat_ofNat_of_valid {n : Nat} (h : n < 0xD800 ∨ 0xDFFF < n ∧ n < 0x110000) :
    (Char.ofNat n).toNat = n := by
  have hv : n.isValidChar := h
  rw [Char.ofNat, dif_pos hv]
  rfl

/-- Where the byte after a leading byte lies. -/
theorem isSecond_range {b0 b1 : UInt8} (h : isSecond b0 b1 = true) :
    0x80 ≤ b1.toNat ∧ b1.toNat ≤ 0xBF ∧ (b0.toNat = 0xE0 → 0xA0 ≤ b1.toNat) ∧
      (b0.toNat = 0xF0 → 0x90 ≤ b1.toNat) ∧ (b0.toNat = 0xED → b1.toNat ≤ 0x9F) ∧
      (b0.toNat = 0xF4 → b1.toNat ≤ 0x8F) := by
  have he0 : b0 = 0xE0 ↔ b0.toNat = 0xE0 := UInt8.toNat_inj.symm
  have hf0 : b0 = 0xF0 ↔ b0.toNat = 0xF0 := UInt8.toNat_inj.symm
  have hed : b0 = 0xED ↔ b0.toNat = 0xED := UInt8.toNat_inj.symm
  have hf4 : b0 = 0xF4 ↔ b0.toNat = 0xF4 := UInt8.toNat_inj.symm
  simp only [isSecond, Bool.and_eq_true, decide_eq_true_eq, he0, hf0, hed, hf4] at h
  obtain ⟨hlo, hhi⟩ := h
  split at hlo <;> split at hhi <;> (try split at hlo) <;> (try split at hhi) <;> omega

theorem isContinuation_range {b : UInt8} (h : isContinuation b = true) :
    0x80 ≤ b.toNat ∧ b.toNat ≤ 0xBF := by
  simpa [isContinuation] using h

/-- Where a leading byte lies, by the number of bytes that follow it. -/
theorem following?_range {b : UInt8} {k : Nat} (h : following? b = some k) :
    (k = 0 ∧ b.toNat < 0x80) ∨ (k = 1 ∧ 0xC2 ≤ b.toNat ∧ b.toNat < 0xE0) ∨
      (k = 2 ∧ 0xE0 ≤ b.toNat ∧ b.toNat < 0xF0) ∨ (k = 3 ∧ 0xF0 ≤ b.toNat ∧ b.toNat < 0xF5) := by
  simp only [following?] at h
  split at h
  · cases h; omega
  split at h
  · cases h
  split at h
  · cases h; omega
  split at h
  · cases h; omega
  split at h
  · cases h; omega
  · cases h

/-- A sequence is written as the bytes it was read from. -/
theorem encodeChar_of_sequence? {b : UInt8} {rest : Bytes} {c : Char} {k : Nat}
    (h : sequence? b rest = some (c, k)) : encodeChar c = b :: rest.take k := by
  unfold sequence? at h
  split at h
  · next hf =>
    have hb := following?_range hf
    simp only [Option.some.injEq, Prod.mk.injEq] at h
    obtain ⟨rfl, rfl⟩ := h
    have hn : (Char.ofNat b.toNat).toNat = b.toNat := toNat_ofNat_of_valid (by omega)
    simp only [encodeChar, hn]
    rw [if_pos (by omega), toUInt8_eq rfl, List.take_zero]
  · next b1 _ hf =>
    have hb := following?_range hf
    split at h
    · next hs =>
      have h1 := isSecond_range hs
      simp only [Option.some.injEq, Prod.mk.injEq] at h
      obtain ⟨rfl, rfl⟩ := h
      have hn : (Char.ofNat ((b.toNat - 0xC0) * 64 + payload b1)).toNat =
          (b.toNat - 0xC0) * 64 + payload b1 := toNat_ofNat_of_valid (by unfold payload; omega)
      simp only [encodeChar, hn]
      unfold payload
      rw [if_neg (by omega), if_pos (by omega), toUInt8_eq (b := b) (by omega),
        toUInt8_eq (b := b1) (by omega)]
      rfl
    · cases h
  · next b1 b2 _ hf =>
    have hb := following?_range hf
    split at h
    · next hs =>
      obtain ⟨hs1, hs2⟩ := Bool.and_eq_true_iff.mp hs
      have h1 := isSecond_range hs1
      have h2 := isContinuation_range hs2
      simp only [Option.some.injEq, Prod.mk.injEq] at h
      obtain ⟨rfl, rfl⟩ := h
      have hn : (Char.ofNat (((b.toNat - 0xE0) * 64 + payload b1) * 64 + payload b2)).toNat =
          ((b.toNat - 0xE0) * 64 + payload b1) * 64 + payload b2 :=
        toNat_ofNat_of_valid (by unfold payload; omega)
      simp only [encodeChar, hn]
      unfold payload
      rw [if_neg (by omega), if_neg (by omega), if_pos (by omega), toUInt8_eq (b := b) (by omega),
        toUInt8_eq (b := b1) (by omega), toUInt8_eq (b := b2) (by omega)]
      rfl
    · cases h
  · next b1 b2 b3 _ hf =>
    have hb := following?_range hf
    split at h
    · next hs =>
      obtain ⟨hs12, hs3⟩ := Bool.and_eq_true_iff.mp hs
      obtain ⟨hs1, hs2⟩ := Bool.and_eq_true_iff.mp hs12
      have h1 := isSecond_range hs1
      have h2 := isContinuation_range hs2
      have h3 := isContinuation_range hs3
      simp only [Option.some.injEq, Prod.mk.injEq] at h
      obtain ⟨rfl, rfl⟩ := h
      have hn : (Char.ofNat
            ((((b.toNat - 0xF0) * 64 + payload b1) * 64 + payload b2) * 64 + payload b3)).toNat =
          (((b.toNat - 0xF0) * 64 + payload b1) * 64 + payload b2) * 64 + payload b3 :=
        toNat_ofNat_of_valid (by unfold payload; omega)
      simp only [encodeChar, hn]
      unfold payload
      rw [if_neg (by omega), if_neg (by omega), if_neg (by omega), toUInt8_eq (b := b) (by omega),
        toUInt8_eq (b := b1) (by omega), toUInt8_eq (b := b2) (by omega),
        toUInt8_eq (b := b3) (by omega)]
      rfl
    · cases h
  · cases h

/-! ## Code points -/

theorem sequence?_of_lt {b : UInt8} (h : b.toNat < 0x80) (rest : Bytes) :
    sequence? b rest = some (Char.ofNat b.toNat, 0) := by
  have hf : following? b = some 0 := by
    simp only [following?]
    rw [if_pos h]
  unfold sequence?
  rw [hf]
  rfl

/-- A byte that starts no sequence is no ASCII byte. -/
theorem le_toNat_of_sequence?_eq_none {b : UInt8} {rest : Bytes} (h : sequence? b rest = none) :
    0x80 ≤ b.toNat := by
  by_cases hb : b.toNat < 0x80
  · rw [sequence?_of_lt hb] at h
    cases h
  · omega

theorem unescape?_escape {b : UInt8} (h : 0x80 ≤ b.toNat) : unescape? (escape b) = some b := by
  have hlt := b.toNat_lt
  simp only [escape, unescape?]
  rw [if_pos (by omega), toUInt8_eq (b := b) (by omega)]

/-- A step of reading takes the bytes that its code point is written as. -/
theorem encodePoint_escapedStep (b : UInt8) (rest : Bytes) :
    encodePoint (escapedStep b rest).1 = b :: rest.take (escapedStep b rest).2 := by
  unfold escapedStep
  split
  · next c k hs => exact encodeChar_of_sequence? hs
  · next hs =>
    show (unescape? (escape b)).toList = _
    rw [unescape?_escape (le_toNat_of_sequence?_eq_none hs)]
    rfl

theorem encodeChar_ne_nil (c : Char) : encodeChar c ≠ [] := by
  simp only [encodeChar]
  split
  · simp
  split
  · simp
  split <;> simp

/-- The strays are the code points that are written as no bytes. -/
theorem isStray_eq_true {c : CodePoint} : isStray c = true ↔ encodePoint c = [] := by
  cases c with
  | char c =>
    have := encodeChar_ne_nil c
    simp [isStray, CodePoint.isSurrogate, encodePoint, this]
  | surrogate i =>
    show (true && (unescape? (.surrogate i)).isNone) = true ↔ (unescape? (.surrogate i)).toList = []
    cases unescape? (.surrogate i) with
    | none => simp
    | some b => simp

/-! ## Reading and writing again -/

theorem flatMap_decodeWith (skip : Nat) (bytes : Bytes) :
    (decodeWith escapedStep skip bytes).flatMap encodePoint = bytes.drop skip := by
  induction bytes generalizing skip with
  | nil => simp [decodeWith]
  | cons b rest ih =>
    cases skip with
    | succ skip =>
      rw [decodeWith, ih, List.drop_succ_cons]
    | zero =>
      rw [decodeWith, List.flatMap_cons, ih, encodePoint_escapedStep, List.cons_append,
        List.take_append_drop, List.drop_zero]

/-- The code points of a source are written as its bytes. -/
theorem flatMap_decodeEscaped (bytes : Bytes) :
    (decodeEscaped bytes).flatMap encodePoint = bytes :=
  flatMap_decodeWith 0 bytes

theorem isStray_decodeWith {c : CodePoint} (skip : Nat) (bytes : Bytes)
    (h : c ∈ decodeWith escapedStep skip bytes) : isStray c = false := by
  induction bytes generalizing skip with
  | nil =>
    rw [decodeWith] at h
    cases h
  | cons b rest ih =>
    cases skip with
    | succ skip =>
      rw [decodeWith] at h
      exact ih skip h
    | zero =>
      rw [decodeWith] at h
      rcases List.mem_cons.mp h with rfl | h
      · rw [Bool.eq_false_iff, Ne, isStray_eq_true, encodePoint_escapedStep]
        exact List.cons_ne_nil _ _
      · exact ih _ h

theorem isStray_decodeEscaped {c : CodePoint} {bytes : Bytes} (h : c ∈ decodeEscaped bytes) :
    isStray c = false :=
  isStray_decodeWith 0 bytes h

theorem find?_eq_none {codec : Codec} {bad inRun : CodePoint → Bool} {pos : Nat} {t : Text} :
    Unencodable.find? codec bad inRun pos t = none ↔ ∀ c ∈ t, bad c = false := by
  induction t generalizing pos with
  | nil => simp [Unencodable.find?]
  | cons c cs ih =>
    rw [Unencodable.find?]
    split
    · next hb => simp [hb]
    · next hb => simp [hb, ih]

/-- A text can be written when it has no strays. -/
theorem encodeEscaped_eq_ok {t : Text} {bytes : Bytes} :
    encodeEscaped t = .ok bytes ↔ (∀ c ∈ t, isStray c = false) ∧ t.flatMap encodePoint = bytes := by
  have hfind : Unencodable.find? .utf8 isStray CodePoint.isSurrogate 0 t = none ↔
      ∀ c ∈ t, isStray c = false := find?_eq_none
  rw [← hfind, encodeEscaped]
  cases Unencodable.find? .utf8 isStray CodePoint.isSurrogate 0 t with
  | none => simp
  | some e => simp

theorem encodeEscaped_error_iff {t : Text} :
    (∃ e, encodeEscaped t = .error e) ↔ ∃ c ∈ t, isStray c = true := by
  cases h : encodeEscaped t with
  | ok bytes =>
    have hstray := (encodeEscaped_eq_ok.mp h).1
    simpa using hstray
  | error e =>
    refine iff_of_true ⟨e, rfl⟩ ?_
    refine Classical.byContradiction fun hnone => ?_
    have hstray : ∀ c ∈ t, isStray c = false := by simpa using hnone
    rw [encodeEscaped_eq_ok.mpr ⟨hstray, rfl⟩] at h
    cases h

/-- Writing what was read gives the bytes back. -/
theorem encodeEscaped_decodeEscaped (bytes : Bytes) :
    encodeEscaped (decodeEscaped bytes) = .ok bytes :=
  encodeEscaped_eq_ok.mpr ⟨fun _ => isStray_decodeEscaped, flatMap_decodeEscaped bytes⟩

theorem encodeEscaped_append {t t' : Text} {bytes bytes' : Bytes} (h : encodeEscaped t = .ok bytes)
    (h' : encodeEscaped t' = .ok bytes') : encodeEscaped (t ++ t') = .ok (bytes ++ bytes') := by
  rw [encodeEscaped_eq_ok] at h h' ⊢
  obtain ⟨hs, rfl⟩ := h
  obtain ⟨hs', rfl⟩ := h'
  refine ⟨fun c hc => ?_, List.flatMap_append⟩
  rcases List.mem_append.mp hc with hc | hc
  · exact hs c hc
  · exact hs' c hc

/-! ## Boundaries -/

/-- The number of bytes that a text is written as. -/
def width (t : Text) : Nat := (t.flatMap encodePoint).length

theorem width_cons (c : CodePoint) (t : Text) :
    width (c :: t) = (encodePoint c).length + width t := by
  rw [width, List.flatMap_cons, List.length_append]
  rfl

theorem width_append (t t' : Text) : width (t ++ t') = width t + width t' := by
  rw [width, List.flatMap_append, List.length_append]
  rfl

theorem width_decodeEscaped (bytes : Bytes) : width (decodeEscaped bytes) = bytes.length := by
  rw [width, flatMap_decodeEscaped]

theorem width_take_le (t : Text) {i j : Nat} (h : i ≤ j) : width (t.take i) ≤ width (t.take j) := by
  have hs := Text.take_append_slice t h
  rw [← hs, width_append]
  omega

theorem width_drop_le (t : Text) (i : Nat) : width (t.drop i) ≤ width t := by
  have h := width_append (t.take i) (t.drop i)
  rw [List.take_append_drop] at h
  omega

/-- The offset of the byte where code point number `i` starts; behind the last one, the length. -/
def boundary (bytes : Bytes) (i : Nat) : Nat := width ((decodeEscaped bytes).take i)

/-- Offset `k` is the boundary before code point number `i`, or the end after the last one. -/
def IsBoundary (bytes : Bytes) (i : Nat) (k : Int) : Prop :=
  i ≤ (decodeEscaped bytes).length ∧ k = boundary bytes i

/-- The boundaries of a source can be listed. -/
theorem exists_isBoundary_iff {bytes : Bytes} {k : Int} : (∃ i, IsBoundary bytes i k) ↔
    k ∈ (List.range ((decodeEscaped bytes).length + 1)).map fun i => (boundary bytes i : Int) := by
  constructor
  · rintro ⟨i, hi, rfl⟩
    exact List.mem_map.mpr ⟨i, List.mem_range.mpr (by omega), rfl⟩
  · intro h
    obtain ⟨i, hi, rfl⟩ := List.mem_map.mp h
    exact ⟨i, Nat.le_of_lt_succ (List.mem_range.mp hi), rfl⟩

theorem boundary_mono (bytes : Bytes) {i j : Nat} (h : i ≤ j) :
    boundary bytes i ≤ boundary bytes j :=
  width_take_le (decodeEscaped bytes) h

/-- What stands before a code point is written as the bytes before its boundary. -/
theorem flatMap_take (t : Text) (i : Nat) :
    (t.take i).flatMap encodePoint = (t.flatMap encodePoint).take (width (t.take i)) := by
  conv => rhs; rw [← List.take_append_drop i t]
  rw [List.flatMap_append, width, List.take_append_drop, List.take_left]

theorem flatMap_drop (t : Text) (i : Nat) :
    (t.drop i).flatMap encodePoint = (t.flatMap encodePoint).drop (width (t.take i)) := by
  conv => rhs; rw [← List.take_append_drop i t]
  rw [List.flatMap_append, width, List.take_append_drop, List.drop_left]

/-- The rest of a source is written as the bytes from its boundary on. -/
theorem encodeEscaped_drop (bytes : Bytes) (i : Nat) :
    encodeEscaped ((decodeEscaped bytes).drop i) = .ok (bytes.drop (boundary bytes i)) := by
  refine encodeEscaped_eq_ok.mpr ⟨fun c hc => ?_, ?_⟩
  · exact isStray_decodeEscaped (List.mem_of_mem_drop hc)
  · rw [flatMap_drop, flatMap_decodeEscaped]
    rfl

/-- A part of a source is written as the bytes between its boundaries. -/
theorem encodeEscaped_slice (bytes : Bytes) (i j : Nat) :
    encodeEscaped ((decodeEscaped bytes).slice i j) =
      .ok ((bytes.take (boundary bytes j)).drop (boundary bytes i)) := by
  refine encodeEscaped_eq_ok.mpr ⟨fun c hc => ?_, ?_⟩
  · exact isStray_decodeEscaped (List.mem_of_mem_take (List.mem_of_mem_drop hc))
  · by_cases h : i ≤ j
    · rw [Text.slice, flatMap_drop, flatMap_take, List.take_take, Nat.min_eq_left h,
        flatMap_decodeEscaped]
      rfl
    · have hle := boundary_mono bytes (show j ≤ i by omega)
      rw [Text.slice_eq_nil_of_le (by omega), List.flatMap_nil, eq_comm, List.drop_eq_nil_iff,
        List.length_take]
      omega

end Utf8

end DartComments
