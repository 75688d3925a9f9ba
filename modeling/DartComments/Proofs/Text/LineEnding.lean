import DartComments.Text.LineEnding

/-!
# The most common line ending

Read from left to right a text has a sequence of line endings, in which a carriage return and the
line feed after it are one (`Endings`). No such reading is made to choose among them: the pairs are
counted, then the carriage returns and the line feeds, and the pairs are taken off. The differences
are the numbers of lone endings in the sequence all the same, and what is chosen is a most common
ending of it (`dominant_prevails`).
-/

namespace DartComments

namespace LineEnding

/-- The line endings of a text from left to right. A carriage return ends a line alone only if no
line feed follows. -/
inductive Endings : Text → List LineEnding → Prop
  | nil : Endings [] []
  | other {c : CodePoint} {t : Text} {es : List LineEnding} :
      c ≠ carriage → c ≠ feed → Endings t es → Endings (c :: t) es
  | lf {t : Text} {es : List LineEnding} : Endings t es → Endings (feed :: t) (.lf :: es)
  | cr {t : Text} {es : List LineEnding} :
      t.head? ≠ some feed → Endings t es → Endings (carriage :: t) (.cr :: es)
  | crlf {t : Text} {es : List LineEnding} :
      Endings t es → Endings (carriage :: feed :: t) (.crlf :: es)

variable {t : Text} {es : List LineEnding}

/-! ## The sequence -/

theorem feed_ne_carriage : feed ≠ carriage := by decide

/-- A code point that starts no pair is read by itself. -/
theorem Endings.exists_cons {c : CodePoint} (h : Endings t es)
    (hc : c = carriage → t.head? ≠ some feed) : ∃ es', Endings (c :: t) es' := by
  by_cases hcarriage : c = carriage
  · subst hcarriage
    exact ⟨_, .cr (hc rfl) h⟩
  by_cases hfeed : c = feed
  · subst hfeed
    exact ⟨_, .lf h⟩
  · exact ⟨_, .other hcarriage hfeed h⟩

theorem exists_endings (t : Text) : ∃ es, Endings t es := by
  -- The search for pairs takes the text apart in the same places.
  fun_induction pairs t with
  | case1 => exact ⟨[], .nil⟩
  | case2 c => exact Endings.nil.exists_cons fun _ => by simp
  | case3 a b rest hpair ih =>
    obtain ⟨es, h⟩ := ih
    obtain ⟨rfl, rfl⟩ : a = carriage ∧ b = feed := by simpa using hpair
    exact ⟨_, .crlf h⟩
  | case4 a b rest hpair ih =>
    obtain ⟨es, h⟩ := ih
    refine h.exists_cons fun ha => ?_
    simpa [ha] using hpair

theorem Endings.eq {es' : List LineEnding} (h : Endings t es) (h' : Endings t es') : es' = es := by
  induction h generalizing es' with
  | nil =>
    cases h'
    rfl
  | other hcarriage hfeed _ ih =>
    cases h' with
    | other _ _ h' => exact ih h'
    | lf _ => exact absurd rfl hfeed
    | cr _ _ => exact absurd rfl hcarriage
    | crlf _ => exact absurd rfl hcarriage
  | lf _ ih =>
    cases h' with
    | other _ hfeed _ => exact absurd rfl hfeed
    | lf h' => rw [ih h']
  | cr halone _ ih =>
    cases h' with
    | other hcarriage _ _ => exact absurd rfl hcarriage
    | cr _ h' => rw [ih h']
    | crlf _ => exact absurd rfl halone
  | crlf _ ih =>
    cases h' with
    | other hcarriage _ _ => exact absurd rfl hcarriage
    | cr halone _ => exact absurd rfl halone
    | crlf h' => rw [ih h']

/-! ## The counts -/

theorem pairs_cons {c : CodePoint} (h : c = carriage → t.head? ≠ some feed) :
    pairs (c :: t) = pairs t := by
  cases t with
  | nil => rfl
  | cons d t =>
    have hpair : ¬ (c = carriage ∧ d = feed) := by
      rintro ⟨hc, rfl⟩
      exact h hc rfl
    rw [pairs, if_neg (by simpa using hpair)]

theorem Endings.pairs_eq (h : Endings t es) : pairs t = es.count .crlf := by
  induction h with
  | nil => rfl
  | other hcarriage _ _ ih => rw [pairs_cons fun hc => absurd hc hcarriage, ih]
  | lf _ ih =>
    rw [pairs_cons fun hc => absurd hc feed_ne_carriage, ih]
    simp
  | cr halone _ ih =>
    rw [pairs_cons fun _ => halone, ih]
    simp
  | crlf _ ih =>
    rw [pairs, if_pos (by decide), ih]
    simp

/-- A code point that can end a line alone does so, or stands in a pair. -/
theorem Endings.count_eq {c : CodePoint} {e : LineEnding} (he : e.text = [c]) (h : Endings t es) :
    t.count c = es.count e + es.count .crlf := by
  have hc : (e = .lf ∧ c = feed) ∨ (e = .cr ∧ c = carriage) := by
    cases e with
    | lf => simpa [text, eq_comm] using he
    | cr => simpa [text, eq_comm] using he
    | crlf => simp [text] at he
  have hne := feed_ne_carriage.symm
  induction h with
  | nil => rfl
  | other hcarriage hfeed _ ih =>
    rcases hc with ⟨rfl, rfl⟩ | ⟨rfl, rfl⟩
    · simp [ih, hfeed]
    · simp [ih, hcarriage]
  | lf _ ih =>
    rcases hc with ⟨rfl, rfl⟩ | ⟨rfl, rfl⟩
    · simp [ih]; omega
    · simp [ih, feed_ne_carriage]
  | cr _ _ ih =>
    rcases hc with ⟨rfl, rfl⟩ | ⟨rfl, rfl⟩
    · simp [ih, hne]
    · simp [ih]; omega
  | crlf _ ih =>
    rcases hc with ⟨rfl, rfl⟩ | ⟨rfl, rfl⟩
    · simp [ih, hne]; omega
    · simp [ih, feed_ne_carriage]; omega

theorem Endings.lone_eq {c : CodePoint} {e : LineEnding} (he : e.text = [c]) (h : Endings t es) :
    lone c t = es.count e := by
  rw [lone, h.count_eq he, h.pairs_eq, Nat.add_sub_cancel]

theorem Endings.pairs_le_count {c : CodePoint} {e : LineEnding} (he : e.text = [c])
    (h : Endings t es) : pairs t ≤ t.count c := by
  rw [h.count_eq he, h.pairs_eq]
  exact Nat.le_add_left _ _

/-! ## The choice -/

/-- The counts of a text are those of its line endings, and no difference is cut off at zero. -/
structure Tallies (t : Text) (es : List LineEnding) : Prop where
  pairs : pairs t = es.count .crlf
  carriages : lone carriage t = es.count .cr
  feeds : lone feed t = es.count .lf
  carriages_eq : (lone carriage t : Int) = t.count carriage - LineEnding.pairs t
  feeds_eq : (lone feed t : Int) = t.count feed - LineEnding.pairs t

/-- An ending that none is more common than. The pair has to be more common than both others, and
the lone carriage return more common than the lone line feed. -/
structure Prevails (es : List LineEnding) (e : LineEnding) : Prop where
  most : ∀ e', es.count e' ≤ es.count e
  crlf : e = .crlf → ∀ e' ≠ .crlf, es.count e' < es.count .crlf
  cr : e = .cr → es.count .lf < es.count .cr

theorem Endings.tallies (h : Endings t es) : Tallies t es where
  pairs := h.pairs_eq
  carriages := h.lone_eq (e := .cr) rfl
  feeds := h.lone_eq (e := .lf) rfl
  carriages_eq := Int.natCast_sub (h.pairs_le_count (e := .cr) rfl)
  feeds_eq := Int.natCast_sub (h.pairs_le_count (e := .lf) rfl)

theorem Tallies.prevails (h : Tallies t es) : Prevails es (dominant t) := by
  rw [dominant, h.pairs, h.carriages, h.feeds]
  split
  · next hcrlf =>
    obtain ⟨hcr, hlf⟩ := Nat.max_lt.mp hcrlf
    refine ⟨?_, fun _ => ?_, nofun⟩
    · rintro (_ | _ | _)
      · exact Nat.le_of_lt hlf
      · exact Nat.le_of_lt hcr
      · exact Nat.le_refl _
    · rintro (_ | _ | _) he
      · exact hlf
      · exact hcr
      · exact absurd rfl he
  · next hcrlf =>
    split
    · next hcr =>
      refine ⟨?_, nofun, fun _ => hcr⟩
      rintro (_ | _ | _) <;> omega
    · next hcr =>
      refine ⟨?_, nofun, nofun⟩
      rintro (_ | _ | _) <;> omega

/-- **The most common ending.** Every text has one sequence of line endings. The counts agree with
it, and the ending chosen from them prevails in it. -/
theorem dominant_prevails (t : Text) : ∃ es, (∀ es', Endings t es' ↔ es' = es) ∧ Tallies t es ∧
    Prevails es (dominant t) := by
  obtain ⟨es, h⟩ := exists_endings t
  refine ⟨es, fun es' => ⟨h.eq, ?_⟩, h.tallies, h.tallies.prevails⟩
  rintro rfl
  exact h

example : dominant "\r\r\n\n" = .lf := by decide

end LineEnding

end DartComments
