import DartComments.Proofs.Text.Utf8

/-!
# Reading a part of a source

Where a code point ends is told by its own bytes: those that come after it have no part in it. So a
source that is cut between two code points reads on its own as it does in the whole.

    t <:+: decodeEscaped bytes →
      decodeEscaped (t.flatMap encodePoint) = t    (decodeEscaped_of_part)

The one thing to see is that bytes which start no sequence do not come to start one when what
follows them is cut off (`escapedStep_append`).
-/

namespace DartComments

namespace Utf8

/-! ## Steps -/

/-- The leading byte of a sequence tells how many bytes follow it, and these are there. -/
theorem following?_of_sequence? {b : UInt8} {rest : Bytes} {c : Char} {k : Nat}
    (h : sequence? b rest = some (c, k)) : following? b = some k ∧ k ≤ rest.length := by
  have htaken : ∀ {test : Bool} {x : Char × Nat},
      (if test then some x else none) = some (c, k) → x.2 = k := by
    intro test x hx
    split at hx
    · cases hx
      rfl
    · cases hx
  unfold sequence? at h
  split at h
  · next hf =>
    cases h
    exact ⟨hf, Nat.zero_le _⟩
  · next hf =>
    obtain rfl := htaken h
    exact ⟨hf, by simp⟩
  · next hf =>
    obtain rfl := htaken h
    exact ⟨hf, by simp⟩
  · next hf =>
    obtain rfl := htaken h
    exact ⟨hf, by simp⟩
  · cases h

/-- Whether a leading byte starts a sequence is told by the bytes that should follow it. -/
theorem sequence?_append {b : UInt8} {rest : Bytes} {k : Nat} (hf : following? b = some k)
    (hk : k ≤ rest.length) (more : Bytes) : sequence? b (rest ++ more) = sequence? b rest := by
  unfold sequence?
  rw [hf]
  obtain ⟨rfl, -⟩ | ⟨rfl, -⟩ | ⟨rfl, -⟩ | ⟨rfl, -⟩ := following?_range hf
  · rfl
  · match rest, hk with
    | b1 :: rest, _ => rfl
  · match rest, hk with
    | b1 :: b2 :: rest, _ => rfl
  · match rest, hk with
    | b1 :: b2 :: b3 :: rest, _ => rfl

/-- A step of reading is told by the bytes that it takes, whatever follows them. -/
theorem escapedStep_append {b : UInt8} {rest more : Bytes}
    (h : (escapedStep b (rest ++ more)).2 ≤ rest.length) :
    escapedStep b (rest ++ more) = escapedStep b rest := by
  unfold escapedStep at h ⊢
  cases hs : sequence? b (rest ++ more) with
  | some s =>
    obtain ⟨c, k⟩ := s
    rw [hs] at h
    have hf := (following?_of_sequence? hs).1
    rw [← sequence?_append hf h more, hs]
  | none =>
    -- no sequence can start here with fewer bytes when there is none with more
    cases hs' : sequence? b rest with
    | none => rfl
    | some s =>
      obtain ⟨c, k⟩ := s
      obtain ⟨hf, hk⟩ := following?_of_sequence? hs'
      rw [sequence?_append hf hk more, hs'] at hs
      cases hs

theorem escapedStep_le_length (b : UInt8) (rest : Bytes) :
    (escapedStep b rest).2 ≤ rest.length := by
  unfold escapedStep
  split
  · next hs => exact (following?_of_sequence? hs).2
  · exact Nat.zero_le _

/-! ## Parts of a source -/

theorem decodeWith_drop (step : UInt8 → Bytes → CodePoint × Nat) (skip : Nat) (bytes : Bytes) :
    decodeWith step skip bytes = decodeWith step 0 (bytes.drop skip) := by
  induction bytes generalizing skip with
  | nil => simp [decodeWith]
  | cons b rest ih =>
    cases skip with
    | zero => rfl
    | succ skip => rw [decodeWith, ih, List.drop_succ_cons]

/-- The first code point, and the reading of what comes after its bytes. -/
theorem decodeEscaped_cons (b : UInt8) (rest : Bytes) : decodeEscaped (b :: rest) =
    (escapedStep b rest).1 :: decodeEscaped (rest.drop (escapedStep b rest).2) := by
  rw [decodeEscaped, decodeWith, decodeWith_drop]
  rfl

theorem exists_step {bytes : Bytes} {c : CodePoint} {t : Text} (h : decodeEscaped bytes = c :: t) :
    ∃ b rest, bytes = b :: rest ∧ (escapedStep b rest).1 = c ∧
      decodeEscaped (rest.drop (escapedStep b rest).2) = t := by
  cases bytes with
  | nil => cases h
  | cons b rest =>
    rw [decodeEscaped_cons] at h
    exact ⟨b, rest, rfl, (List.cons.inj h).1, (List.cons.inj h).2⟩

/-- The end of a source is read from its own bytes. -/
theorem decodeEscaped_of_append_right {bytes : Bytes} {t t' : Text}
    (h : decodeEscaped bytes = t ++ t') : decodeEscaped (t'.flatMap encodePoint) = t' := by
  induction t generalizing bytes with
  | nil =>
    have hbytes := flatMap_decodeEscaped bytes
    rw [h, List.nil_append] at hbytes
    rw [hbytes, h, List.nil_append]
  | cons c t ih =>
    rw [List.cons_append] at h
    obtain ⟨b, rest, -, -, ht⟩ := exists_step h
    exact ih ht

/-- The beginning of a source is read from its own bytes. -/
theorem decodeEscaped_of_append_left {bytes : Bytes} {t t' : Text}
    (h : decodeEscaped bytes = t ++ t') : decodeEscaped (t.flatMap encodePoint) = t := by
  induction t generalizing bytes with
  | nil => rfl
  | cons c t ih =>
    rw [List.cons_append] at h
    obtain ⟨b, rest, rfl, rfl, ht⟩ := exists_step h
    have hrest : rest = (rest.take (escapedStep b rest).2 ++ t.flatMap encodePoint) ++
        t'.flatMap encodePoint := by
      have hdrop := flatMap_decodeEscaped (rest.drop (escapedStep b rest).2)
      rw [ht, List.flatMap_append] at hdrop
      rw [List.append_assoc, hdrop, List.take_append_drop]
    have hlen := escapedStep_le_length b rest
    have hstep : escapedStep b (rest.take (escapedStep b rest).2 ++ t.flatMap encodePoint) =
        escapedStep b rest := by
      conv => rhs; rw [hrest]
      refine (escapedStep_append ?_).symm
      rw [← hrest, List.length_append, List.length_take]
      omega
    rw [List.flatMap_cons, encodePoint_escapedStep, List.cons_append, decodeEscaped_cons, hstep,
      List.drop_left' (by rw [List.length_take]; omega), ih ht]

/-- A part of a source is read from its own bytes as it is read in the whole. -/
theorem decodeEscaped_of_part {bytes : Bytes} {t : Text} (h : t <:+: decodeEscaped bytes) :
    decodeEscaped (t.flatMap encodePoint) = t := by
  obtain ⟨before, after, h⟩ := h
  exact decodeEscaped_of_append_right (decodeEscaped_of_append_left h.symm)

theorem decodeEscaped_slice (bytes : Bytes) (i j : Nat) :
    decodeEscaped ((bytes.take (boundary bytes j)).drop (boundary bytes i)) =
      (decodeEscaped bytes).slice i j := by
  have hpart : (decodeEscaped bytes).slice i j <:+: decodeEscaped bytes :=
    (List.drop_suffix i _).isInfix.trans (List.take_prefix j _).isInfix
  have hbytes := (encodeEscaped_eq_ok.mp (encodeEscaped_slice bytes i j)).2
  rw [← hbytes, decodeEscaped_of_part hpart]

end Utf8
end DartComments
