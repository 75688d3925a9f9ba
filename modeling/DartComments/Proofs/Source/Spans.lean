import DartComments.Proofs.Source.Offsets
import DartComments.Proofs.Text.Cut
import DartComments.Proofs.Tree.Heads

/-!
# What offsets span

A byte offset is converted to the number of the code point that its byte is part of, and from one
byte to the next that number grows by one or not at all. Between boundaries it makes no difference
whether a source is cut and then read, or read and then cut:

    text.slice (convert s) (convert e) = decodeEscaped (between bytes s e)

So the name and the text of a declaration are the bytes that its nodes span.
-/

namespace DartComments

namespace Utf8

/-- The bytes from offset `s` up to offset `e`. -/
def between (bytes : Bytes) (s e : Int) : Bytes := (bytes.take e.toNat).drop s.toNat

/-- A text is what bytes are read as, and is written as these bytes again. -/
structure IsReading (bytes : Bytes) (t : Text) : Prop where
  read : decodeEscaped bytes = t
  written : encodeEscaped t = .ok bytes

/-- Byte `k` of a source is one of the bytes that its code point number `i` is written as. -/
def HoldsByte (bytes : Bytes) (i k : Nat) : Prop :=
  ∃ c, (decodeEscaped bytes)[i]? = some c ∧ boundary bytes i ≤ k ∧
    k < boundary bytes i + (encodePoint c).length ∧
    bytes[k]? = (encodePoint c)[k - boundary bytes i]?

theorem isReading_decodeEscaped (bytes : Bytes) : IsReading bytes (decodeEscaped bytes) :=
  ⟨rfl, encodeEscaped_decodeEscaped bytes⟩

/-- What lies between two boundaries is read on its own as it is in the source. -/
theorem isReading_slice {bytes : Bytes} {i j : Nat} {s e : Int} (hs : IsBoundary bytes i s)
    (he : IsBoundary bytes j e) :
    IsReading (between bytes s e) ((decodeEscaped bytes).slice i j) := by
  obtain ⟨-, rfl⟩ := hs
  obtain ⟨-, rfl⟩ := he
  exact ⟨decodeEscaped_slice bytes i j, encodeEscaped_slice bytes i j⟩

end Utf8

namespace Offsets

open Utf8

/-! ## The code point of a byte -/

/-- A byte that a text is written as belongs to the code point that `pointAt` gives. -/
theorem pointAt_holds (t : Text) {k : Nat} (h : k < width t) :
    ∃ c, t[pointAt t k]? = some c ∧ width (t.take (pointAt t k)) ≤ k ∧
      k < width (t.take (pointAt t k)) + (encodePoint c).length ∧
      (t.flatMap encodePoint)[k]? = (encodePoint c)[k - width (t.take (pointAt t k))]? := by
  induction t generalizing k with
  | nil => exact absurd h (Nat.not_lt_zero k)
  | cons c cs ih =>
    rw [width_cons] at h
    by_cases hk : k < (encodePoint c).length
    · have hzero : pointAt (c :: cs) k = 0 := by
        rw [pointAt, if_pos hk]
      rw [hzero]
      refine ⟨c, rfl, Nat.zero_le k, ?_, ?_⟩
      · show k < 0 + (encodePoint c).length
        omega
      · rw [List.flatMap_cons, List.getElem?_append_left hk]
        rfl
    · have hsucc : pointAt (c :: cs) k = pointAt cs (k - (encodePoint c).length) + 1 := by
        rw [pointAt, if_neg hk]
      obtain ⟨d, hd, hle, hlt, hget⟩ := ih (show k - (encodePoint c).length < width cs by omega)
      rw [hsucc, List.getElem?_cons_succ, List.take_succ_cons, width_cons]
      refine ⟨d, hd, by omega, by omega, ?_⟩
      rw [List.flatMap_cons, List.getElem?_append_right (by omega), hget, Nat.sub_add_eq]

theorem pointAt_zero {t : Text} (hs : ∀ c ∈ t, isStray c = false) : pointAt t 0 = 0 :=
  pointAt_width_take t hs (Nat.zero_le _)

/-- From one byte to the next the number of the code point stays or grows by one. -/
theorem pointAt_succ {t : Text} (hs : ∀ c ∈ t, isStray c = false) {k : Nat} (h : k < width t) :
    pointAt t (k + 1) = pointAt t k ∨ pointAt t (k + 1) = pointAt t k + 1 := by
  induction t generalizing k with
  | nil => exact absurd h (Nat.not_lt_zero k)
  | cons c cs ih =>
    have hcs : ∀ d ∈ cs, isStray d = false := fun d hd => hs d (List.mem_cons_of_mem c hd)
    rw [width_cons] at h
    rw [pointAt, pointAt]
    by_cases hk : k < (encodePoint c).length
    · rw [if_pos hk]
      by_cases hk' : k + 1 < (encodePoint c).length
      · rw [if_pos hk']
        exact .inl rfl
      -- the next byte is the first of the code point after `c`
      · have hnext : k + 1 - (encodePoint c).length = 0 := by omega
        rw [if_neg hk', hnext, pointAt_zero hcs]
        exact .inr rfl
    · rw [if_neg hk, if_neg (by omega),
        show k + 1 - (encodePoint c).length = k - (encodePoint c).length + 1 by omega]
      have := ih hcs (show k - (encodePoint c).length < width cs by omega)
      omega

/-- An offset is converted to the code point that holds its byte. -/
theorem convert_holds (bytes : Bytes) {k : Nat} (h : k < bytes.length) :
    ∃ i : Nat, (ofBytes bytes).convert k = .ok (i : Int) ∧ HoldsByte bytes i k := by
  refine ⟨pointAt (decodeEscaped bytes) k, convert_eq_pointAt bytes (by omega), ?_⟩
  rw [← width_decodeEscaped bytes] at h
  have hold := pointAt_holds (decodeEscaped bytes) h
  rw [flatMap_decodeEscaped] at hold
  exact hold

theorem isBoundary_length (bytes : Bytes) :
    IsBoundary bytes (decodeEscaped bytes).length bytes.length := by
  refine ⟨Nat.le_refl _, ?_⟩
  rw [boundary, List.take_length, width_decodeEscaped]

/-- Converting keeps the order of offsets, and one offset after the other goes up by at most one. -/
theorem convert_steps (bytes : Bytes) {k l : Nat} (hkl : k ≤ l) (hl : l ≤ bytes.length) :
    ∃ i j : Nat, (ofBytes bytes).convert k = .ok (i : Int) ∧
      (ofBytes bytes).convert l = .ok (j : Int) ∧ i ≤ j ∧ (l = k + 1 → j = i ∨ j = i + 1) := by
  refine ⟨_, _, convert_eq_pointAt bytes (Nat.le_trans hkl hl), convert_eq_pointAt bytes hl,
    pointAt_mono _ hkl, ?_⟩
  rintro rfl
  rw [← width_decodeEscaped bytes] at hl
  exact pointAt_succ (fun _ => isStray_decodeEscaped) hl

end Offsets

namespace Locate

open Utf8

/-! ## What a declaration reports -/

/-- A declaration reports the bytes that its nodes span: those of the node that holds its name, and
those from its first node to its terminator when these stand at boundaries. -/
structure Reports (u : SourceUnit) (h : Head) (d : Declaration) : Prop where
  name : ∃ name, nameNode? h.signature = some name ∧
    (0 ≤ name.start → 0 ≤ name.stop → IsReading (between u.bytes name.start name.stop) d.name)
  text : ∃ first, h.opening? = some first ∧
    ((∃ i, IsBoundary u.bytes i first.start) → (∃ j, IsBoundary u.bytes j h.terminator.stop) →
      IsReading (between u.bytes first.start h.terminator.stop) (d.sourceText u.source))

theorem text_eq_decodeEscaped_between (n : Node) (bytes : Bytes) (hs : 0 ≤ n.start)
    (he : 0 ≤ n.stop) : n.text bytes = decodeEscaped (between bytes n.start n.stop) := by
  unfold Node.text Node.position between
  rw [if_neg (by omega), if_neg (by omega)]

theorem reports_of_declare {u : SourceUnit} (hsource : u.source = decodeEscaped u.bytes) {h : Head}
    {d : Declaration} (hd : h.declare u.bytes (.ofBytes u.bytes) = .ok d) : Reports u h d := by
  obtain ⟨name, first, hname, ho, htext, -, hstart, hstop⟩ := Head.declare_eq_ok.mp hd
  refine ⟨⟨name, hname, fun hs he => ?_⟩, first, ho, ?_⟩
  · rw [htext, text_eq_decodeEscaped_between name u.bytes hs he]
    exact isReading_decodeEscaped _
  · rintro ⟨i, hi⟩ ⟨j, hj⟩
    have hi' : (i : Int) = d.range.start :=
      Except.ok.inj ((Offsets.convert_boundary hi).symm.trans hstart)
    have hj' : (j : Int) = d.range.stop :=
      Except.ok.inj ((Offsets.convert_boundary hj).symm.trans hstop)
    rw [Declaration.sourceText, hsource, ← Int.ofNat.inj hi', ← Int.ofNat.inj hj']
    exact isReading_slice hi hj

/-- Offsets are converted to the code points that hold their bytes, in steps of nought or one, with
or without a table; slicing between boundaries commutes with reading; and what is located reports
the bytes of its nodes. -/
theorem convert_commutes_with_slicing (bytes : Bytes) :
    (∀ k < bytes.length, ∃ i : Nat, (Offsets.ofBytes bytes).convert k = .ok (i : Int) ∧
      HoldsByte bytes i k) ∧
    (Offsets.ofBytes bytes).convert bytes.length = .ok ((decodeEscaped bytes).length : Int) ∧
    (∀ k l, k ≤ l → l ≤ bytes.length → ∃ i j : Nat,
      (Offsets.ofBytes bytes).convert k = .ok (i : Int) ∧
      (Offsets.ofBytes bytes).convert l = .ok (j : Int) ∧ i ≤ j ∧
      (l = k + 1 → j = i ∨ j = i + 1)) ∧
    (Offsets.isAscii bytes = true → Offsets.ofBytes bytes = ⟨none⟩ ∧ ∀ k ≤ bytes.length,
      Offsets.convert ⟨none⟩ k =
        Offsets.convert ⟨some (Offsets.tableFrom 0 (decodeEscaped bytes))⟩ k) ∧
    (∀ i j s e, IsBoundary bytes i s → IsBoundary bytes j e →
      (Offsets.ofBytes bytes).convert s = .ok (i : Int) ∧
      (Offsets.ofBytes bytes).convert e = .ok (j : Int) ∧
      IsReading (between bytes s e) ((decodeEscaped bytes).slice i j)) ∧
    ∀ u : SourceUnit, u.bytes = bytes → u.source = decodeEscaped bytes →
      ∀ ds, u.declarations = .ok ds →
        List.Forall₂ (fun x d => Reports u x.2 d) (heads u.tree) ds := by
  refine ⟨fun k hk => Offsets.convert_holds bytes hk,
    Offsets.convert_boundary (Offsets.isBoundary_length bytes),
    fun k l hkl hl => Offsets.convert_steps bytes hkl hl, fun ha => ?_, fun i j s e hs he => ?_, ?_⟩
  · refine ⟨by rw [Offsets.ofBytes, if_pos ha], fun k hk => ?_⟩
    rw [Offsets.convert_table _ (by rw [width_decodeEscaped]; exact hk),
      Offsets.pointAt_of_isAscii ha hk]
    rfl
  · exact ⟨Offsets.convert_boundary hs, Offsets.convert_boundary he, isReading_slice hs he⟩
  · rintro u rfl hsource ds hds
    exact (declarations_eq_ok.mp hds).2.imp fun x d hd => reports_of_declare hsource hd

/-- `éint f();` with a byte after the accent that belongs to no character. -/
def accentUnit : SourceUnit :=
  let bytes := [0xC3, 0xA9, 0xFF, 105, 110, 116, 32, 102, 40, 41, 59]
  { path := none
    source := decodeEscaped bytes
    bytes
    tree := .mk { kind := .other [], start := 3, stop := 11 }
      [shortSignature 3, leaf .semicolon 10 11] }

/-- The second byte is part of the accent, the third stands for itself, and the function that
starts at byte 3 reports eight code points from the second on. -/
theorem accentUnit_spans :
    (∃ i : Nat, (Offsets.ofBytes accentUnit.bytes).convert 1 = .ok (i : Int) ∧
      HoldsByte accentUnit.bytes i 1) ∧
    IsBoundary accentUnit.bytes 2 3 ∧ IsBoundary accentUnit.bytes 10 11 ∧
    IsReading (between accentUnit.bytes 3 11) (accentUnit.source.slice 2 10) ∧
    ∃ d, accentUnit.declarations = .ok [d] ∧ d.range.start = 2 ∧ d.range.stop = 10 ∧
      List.Forall₂ (fun x d => Reports accentUnit x.2 d) (heads accentUnit.tree) [d] := by
  obtain ⟨hold, -, -, -, hslice, hreport⟩ := convert_commutes_with_slicing accentUnit.bytes
  have hs : IsBoundary accentUnit.bytes 2 3 := ⟨by decide, by decide⟩
  have he : IsBoundary accentUnit.bytes 10 11 := ⟨by decide, by decide⟩
  exact ⟨hold 1 (by decide), hs, he, (hslice 2 10 3 11 hs he).2.2,
    ⟨[.char 'f'], .function, 2, 10, by decide⟩, rfl, rfl, rfl, hreport accentUnit rfl rfl _ rfl⟩

end Locate

end DartComments
