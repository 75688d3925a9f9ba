import DartComments.Proofs.Text.Utf8
import DartComments.Source.Offsets

/-!
# Converting byte offsets

Inside a source the converter never fails. It gives the number of the code point that a byte belongs
to, whether it has a table or the source is plain ASCII:

    k ≤ bytes.length → (ofBytes bytes).convert k = .ok (pointAt (decodeEscaped bytes) k)

So it keeps the order of offsets, and gives `i` for the boundary before code point `i`.
-/

namespace DartComments

namespace Offsets

open Utf8

/-- The number of the code point that byte `k` of a text belongs to; behind the text, its length. -/
def pointAt : Text → Nat → Nat
  | [], _ => 0
  | c :: cs, k =>
    if k < (encodePoint c).length then 0 else pointAt cs (k - (encodePoint c).length) + 1

theorem pointAt_mono (t : Text) {k l : Nat} (h : k ≤ l) : pointAt t k ≤ pointAt t l := by
  induction t generalizing k l with
  | nil => exact Nat.le_refl 0
  | cons c cs ih =>
    rw [pointAt, pointAt]
    split
    · omega
    · rw [if_neg (by omega)]
      have := ih (show k - (encodePoint c).length ≤ l - (encodePoint c).length by omega)
      omega

theorem pointAt_le_length (t : Text) (k : Nat) : pointAt t k ≤ t.length := by
  induction t generalizing k with
  | nil => exact Nat.le_refl 0
  | cons c cs ih =>
    rw [pointAt, List.length_cons]
    split
    · omega
    · have := ih (k - (encodePoint c).length)
      omega

theorem pointAt_width_take (t : Text) (hs : ∀ c ∈ t, isStray c = false) {i : Nat}
    (h : i ≤ t.length) : pointAt t (width (t.take i)) = i := by
  induction t generalizing i with
  | nil =>
    have : i = 0 := by simpa using h
    subst this
    rfl
  | cons c cs ih =>
    cases i with
    | zero =>
      have hne : encodePoint c ≠ [] := by
        intro he
        have := hs c List.mem_cons_self
        rw [isStray_eq_true.mpr he] at this
        cases this
      show pointAt (c :: cs) 0 = 0
      rw [pointAt, if_pos (List.length_pos_iff.mpr hne)]
    | succ i =>
      rw [List.take_succ_cons, width_cons, pointAt, if_neg (by omega), Nat.add_sub_cancel_left,
        ih (fun d hd => hs d (List.mem_cons_of_mem c hd)) (Nat.le_of_succ_le_succ h)]

/-! ## The table -/

theorem tableFrom_getElem? (t : Text) (base : Nat) {k : Nat} (h : k ≤ width t) :
    (tableFrom base t)[k]? = some (base + pointAt t k) := by
  induction t generalizing base k with
  | nil =>
    have : k = 0 := by simpa [width] using h
    subst this
    rfl
  | cons c cs ih =>
    rw [tableFrom, pointAt]
    rw [width_cons] at h
    split
    · next hk =>
      rw [List.getElem?_append_left (by simpa using hk), List.getElem?_replicate, if_pos hk,
        Nat.add_zero]
    · next hk =>
      rw [List.getElem?_append_right (by simpa using hk), List.length_replicate,
        ih (base + 1) (by omega)]
      congr 1
      omega

theorem pointAt_eq_self {t : Text} (h : ∀ c ∈ t, (encodePoint c).length = 1) {k : Nat}
    (hk : k ≤ t.length) : pointAt t k = k := by
  induction t generalizing k with
  | nil =>
    have : k = 0 := by simpa using hk
    exact this.symm
  | cons c cs ih =>
    rw [List.length_cons] at hk
    rw [pointAt, h c List.mem_cons_self]
    split
    · omega
    · rw [ih (fun d hd => h d (List.mem_cons_of_mem c hd)) (by omega)]
      omega

/-- In an ASCII source every code point is one byte. -/
theorem length_encodePoint_of_isAscii {bytes : Bytes} (h : isAscii bytes = true) :
    ∀ c ∈ decodeEscaped bytes, (encodePoint c).length = 1 := by
  unfold decodeEscaped
  induction bytes with
  | nil =>
    intro c hc
    cases hc
  | cons b rest ih =>
    simp only [isAscii, List.all_cons, Bool.and_eq_true, decide_eq_true_eq] at h
    have hstep : (escapedStep b rest).2 = 0 := by
      rw [escapedStep, sequence?_of_lt (UInt8.lt_iff_toNat_lt.mp h.1)]
    intro c hc
    rw [decodeWith, hstep] at hc
    rcases List.mem_cons.mp hc with rfl | hc
    · rw [encodePoint_escapedStep, hstep]
      rfl
    · exact ih h.2 c hc

/-! ## The converter -/

/-- The table of a text gives the number of the code point that a byte belongs to. -/
theorem convert_table (t : Text) {k : Nat} (h : k ≤ width t) :
    convert ⟨some (tableFrom 0 t)⟩ k = .ok (pointAt t k : Int) := by
  have hentry : entry? (tableFrom 0 t) k = some (pointAt t k) := by
    rw [ entry?, if_pos (by omega), Int.toNat_natCast, tableFrom_getElem? _ _ h, Nat.zero_add]
  unfold convert
  dsimp only
  rw [hentry]

/-- In an ASCII source every offset is the number of its code point. -/
theorem pointAt_of_isAscii {bytes : Bytes} (ha : isAscii bytes = true) {k : Nat}
    (h : k ≤ bytes.length) : pointAt (decodeEscaped bytes) k = k := by
  have hone := length_encodePoint_of_isAscii ha
  have hlen : width (decodeEscaped bytes) = (decodeEscaped bytes).length := by
    rw [width, List.length_flatMap, List.map_congr_left hone, List.map_const',
      List.sum_replicate_nat, Nat.mul_one]
  rw [width_decodeEscaped] at hlen
  exact pointAt_eq_self hone (by omega)

/-- Inside a source an offset is converted to the number of its code point. -/
theorem convert_eq_pointAt (bytes : Bytes) {k : Nat} (h : k ≤ bytes.length) :
    (ofBytes bytes).convert k = .ok (pointAt (decodeEscaped bytes) k : Int) := by
  unfold ofBytes
  cases ha : isAscii bytes with
  | true =>
    rw [if_pos rfl, pointAt_of_isAscii ha h]
    rfl
  | false =>
    rw [if_neg (by simp)]
    exact convert_table _ (by rw [width_decodeEscaped]; exact h)

/-- Converting keeps the order of offsets. -/
theorem convert_mono {bytes : Bytes} {k l i j : Int} (hk : 0 ≤ k) (hkl : k ≤ l)
    (hl : l ≤ bytes.length) (hi : (ofBytes bytes).convert k = .ok i)
    (hj : (ofBytes bytes).convert l = .ok j) : i ≤ j := by
  obtain ⟨k, rfl⟩ := Int.eq_ofNat_of_zero_le hk
  obtain ⟨l, rfl⟩ := Int.eq_ofNat_of_zero_le (Int.le_trans hk hkl)
  rw [convert_eq_pointAt bytes (by omega)] at hi hj
  cases hi
  cases hj
  have := pointAt_mono (decodeEscaped bytes) (show k ≤ l by omega)
  omega

/-- The boundary before code point `i` is converted to `i`. -/
theorem convert_boundary {bytes : Bytes} {i : Nat} {k : Int} (h : IsBoundary bytes i k) :
    (ofBytes bytes).convert k = .ok (i : Int) := by
  obtain ⟨hi, rfl⟩ := h
  have hle : width ((decodeEscaped bytes).take i) ≤ bytes.length := by
    have := width_take_le (decodeEscaped bytes) hi
    rwa [List.take_length, width_decodeEscaped] at this
  rw [boundary, convert_eq_pointAt bytes hle,
    pointAt_width_take (decodeEscaped bytes) (fun _ => isStray_decodeEscaped) hi]

end Offsets

end DartComments
