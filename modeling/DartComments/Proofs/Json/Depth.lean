import DartComments.Json.Depth
import DartComments.Proofs.Json.RoundTrip

/-!
# Documents that are not too deep

Passing the text of a value leaves the brackets that are open as they were (`Keeps`): what it opens
it closes again, and brackets in its strings do not count. So a faithful document of a depth within
the limit is read to its end (`Faithful.tooDeep?_eq_none`).
-/

namespace DartComments

namespace Json

/-- A text after which a string is open, or is not, as before it, and the same brackets are, with at
most `depth` more of them open at once on the way. -/
def Keeps (inString : Bool) (depth : Nat) (t : Text) : Prop :=
  ∀ (limit : Nat) (before closers : Text), closers.length + depth ≤ limit → ∃ before', ∀ rest,
    tooDeepFrom? limit ⟨before, closers, inString, false⟩ (t ++ rest) =
      tooDeepFrom? limit ⟨before', closers, inString, false⟩ rest

variable {inString : Bool} {depth : Nat}

theorem keeps_nil : Keeps inString depth [] := by
  intro limit before closers _
  exact ⟨before, fun _ => rfl⟩

theorem Keeps.append {t t' : Text} (h : Keeps inString depth t) (h' : Keeps inString depth t') :
    Keeps inString depth (t ++ t') := by
  intro limit before closers hlimit
  obtain ⟨before₁, hfirst⟩ := h limit before closers hlimit
  obtain ⟨before₂, hsecond⟩ := h' limit before₁ closers hlimit
  refine ⟨before₂, fun rest => ?_⟩
  rw [List.append_assoc, hfirst, hsecond]

/-! ## Inside strings -/

/-- What opens nothing is passed. -/
theorem tooDeepFrom?_cons {limit : Nat} {p : Passed} {c : CodePoint} (h : p.opens? c = none)
    (rest : Text) : tooDeepFrom? limit p (c :: rest) = tooDeepFrom? limit (p.next c) rest := by
  rw [tooDeepFrom?, h]

/-- In a string only its closing mark and the escape matter. -/
theorem keeps_plain {c : CodePoint} (hquote : c ≠ .char '\x22') (hslash : c ≠ .char '\\') :
    Keeps true depth [c] := by
  intro limit before closers _
  refine ⟨c :: before, fun rest => ?_⟩
  rw [List.singleton_append, tooDeepFrom?_cons rfl]
  simp [Passed.next, hquote, hslash]

/-- What follows a backslash does not end the string. -/
theorem keeps_escape (c : CodePoint) : Keeps true depth [.char '\\', c] := by
  intro limit before closers _
  refine ⟨c :: .char '\\' :: before, fun rest => ?_⟩
  rw [List.cons_append, List.singleton_append, tooDeepFrom?_cons rfl, tooDeepFrom?_cons rfl]
  rfl

theorem keeps_of_forall_mem {t : Text} (h : ∀ c ∈ t, Keeps inString depth [c]) :
    Keeps inString depth t := by
  induction t with
  | nil => exact keeps_nil
  | cons c t ih =>
    rw [List.forall_mem_cons] at h
    exact h.1.append (ih h.2)

theorem PointText.keeps {c : CodePoint} {t : Text} (h : PointText c t) : Keeps true depth t := by
  cases h with
  | short _ => exact keeps_escape _
  | code _ hvalue =>
    refine (keeps_escape (.char 'u')).append (keeps_of_forall_mem fun c' hc' => ?_)
    obtain ⟨-, hquote, hslash⟩ := plain_of_hex4? hvalue c' hc'
    exact keeps_plain hquote hslash
  | plain hquote hslash _ => exact keeps_plain hquote hslash

theorem keeps_flatMap (t : Text) : Keeps true depth (t.flatMap writePoint) := by
  induction t with
  | nil => exact keeps_nil
  | cons c t ih => exact (pointText_writePoint c).keeps.append ih

/-! ## Outside strings -/

theorem keeps_writeString (t : Text) : Keeps false depth (writeString t) := by
  intro limit before closers hlimit
  obtain ⟨before', hpoints⟩ := keeps_flatMap t limit (.char '\x22' :: before) closers hlimit
  refine ⟨.char '\x22' :: before', fun rest => ?_⟩
  rw [writeString_append, tooDeepFrom?_cons rfl]
  exact (hpoints _).trans (tooDeepFrom?_cons rfl rest)

theorem keeps_unmarked {t : Text} (h : Unmarked t) : Keeps false depth t := by
  refine keeps_of_forall_mem fun c hc => ?_
  obtain ⟨-, hmarks⟩ := h c hc
  intro limit before closers _
  refine ⟨c :: before, fun rest => ?_⟩
  have hopens : Passed.opens? ⟨before, closers, false, false⟩ c = none := by
    have hbracket : c ≠ .char '[' := by
      rintro rfl
      exact hmarks (by decide)
    have hbrace : c ≠ .char '\x7b' := by
      rintro rfl
      exact hmarks (by decide)
    simp [Passed.opens?, hbracket, hbrace]
  have hnext : Passed.next ⟨before, closers, false, false⟩ c =
      ⟨c :: before, closers, false, false⟩ := by
    unfold Passed.next
    dsimp only
    rw [if_neg Bool.false_ne_true]
    split
    case h_6 => rfl
    all_goals exact absurd (by decide) hmarks
  rw [List.singleton_append, tooDeepFrom?_cons hopens, hnext]

/-- A bracket and what closes it around a text add to its depth. -/
theorem keeps_bracketed {a b : CodePoint} {t : Text} (h : Keeps false depth t) {nest : Nest}
    (hnest : ∀ before closers, Passed.opens? ⟨before, closers, false, false⟩ a = some nest)
    (hopen : ∀ before closers, Passed.next ⟨before, closers, false, false⟩ a =
      ⟨a :: before, b :: closers, false, false⟩)
    (hnone : ∀ before closers, Passed.opens? ⟨before, closers, false, false⟩ b = none)
    (hclose : ∀ before closers, Passed.next ⟨before, b :: closers, false, false⟩ b =
      ⟨b :: before, closers, false, false⟩) :
    Keeps false (depth + 1) ([a] ++ t ++ [b]) := by
  intro limit before closers hlimit
  have hroom : ¬ limit ≤ closers.length := by omega
  obtain ⟨before', hinner⟩ := h limit (a :: before) (b :: closers) (by
    rw [List.length_cons]
    omega)
  refine ⟨b :: before', fun rest => ?_⟩
  rw [bracketed_append, tooDeepFrom?, hnest]
  dsimp only
  rw [if_neg hroom, hopen, hinner, tooDeepFrom?_cons (hnone _ _), hclose]

/-- **A faithful document within the limit is not too deep.** -/
theorem Faithful.tooDeep?_eq_none {v : Json} (h : Faithful depth v) (hdepth : depth ≤ depthLimit)
    {t : Text} (hwrite : v.write = .ok t) : tooDeep? t = none := by
  have hkeeps : Keeps false depth t := by
    refine Faithful.text_induction (P := Keeps false) ?_ ?_ ?_ ?_ ?_ h hwrite
    · intro depth t ht
      exact keeps_unmarked ht
    · intro depth t
      exact keeps_writeString t
    · intro depth t t' ht ht'
      exact ht.append ht'
    · intro depth t ht
      exact keeps_bracketed ht (fun _ _ => rfl) (fun _ _ => rfl) (fun _ _ => rfl) fun _ _ => rfl
    · intro depth t ht
      exact keeps_bracketed ht (fun _ _ => rfl) (fun _ _ => rfl) (fun _ _ => rfl) fun _ _ => rfl
  obtain ⟨before, hpassed⟩ := hkeeps depthLimit [] [] (by simpa using hdepth)
  have hnone : tooDeepFrom? depthLimit {} t = none := by
    have hend := hpassed []
    rw [List.append_nil] at hend
    exact hend
  rw [tooDeep?, hnone]

end Json

end DartComments
