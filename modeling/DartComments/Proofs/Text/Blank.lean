import DartComments.Text.Blank
import Mathlib.Data.List.DropRight

/-!
# The last word of a text

Nothing is left of a text between its blanks exactly when it is blank. Any other text has a last
word: what stands after it is blank, and so is the code point before it, if there is one
(`LastWord`). It is the last of the words that the text is cut into.
-/

namespace DartComments

namespace Text

theorem strip_eq_nil_iff {t : Text} : t.strip = [] ↔ ∀ c ∈ t, c.isBlank = true := by
  have hstrip : t.strip = (t.dropWhile CodePoint.isBlank).rdropWhile CodePoint.isBlank := rfl
  rw [hstrip, List.rdropWhile_eq_nil_iff]
  constructor
  · intro h
    refine List.dropWhile_eq_nil_iff.mp (Classical.byContradiction fun hne => ?_)
    obtain ⟨c, rest, hrest⟩ := List.exists_cons_of_ne_nil hne
    have hblank := h c (hrest ▸ List.mem_cons_self)
    have hhead := List.head?_dropWhile_not CodePoint.isBlank t
    rw [hrest] at hhead
    simp [hblank] at hhead
  · intro h c hc
    exact h c ((List.dropWhile_sublist _).subset hc)

/-- There is nothing to take off a text without blanks. -/
theorem strip_eq_self {t : Text} (h : ∀ c ∈ t, c.isBlank = false) : t.strip = t := by
  have hdrop : ∀ u : Text, (∀ c ∈ u, c.isBlank = false) → u.dropWhile CodePoint.isBlank = u := by
    intro u hu
    cases u with
    | nil => rfl
    | cons c u => exact List.dropWhile_cons_of_neg (by simp [hu c List.mem_cons_self])
  rw [strip, hdrop t h, hdrop t.reverse fun c hc => h c (List.mem_reverse.mp hc),
    List.reverse_reverse]

/-- A text ends in a word, or in a word and blanks. -/
inductive LastWord : Text → Text → Prop
  | mk {before word blanks : Text} : (∀ c, before.getLast? = some c → c.isBlank = true) →
      word ≠ [] → (∀ c ∈ word, c.isBlank = false) → (∀ c ∈ blanks, c.isBlank = true) →
      LastWord (before ++ (word ++ blanks)) word

theorem exists_lastWord {t : Text} (h : ∃ c ∈ t, c.isBlank = false) : ∃ word, LastWord t word := by
  -- Cut off from the right first the blanks after the word, then the word itself.
  obtain ⟨kept, hkept⟩ : ∃ kept, kept = t.rdropWhile CodePoint.isBlank := ⟨_, rfl⟩
  have hne : kept ≠ [] := by
    rw [hkept, ne_eq, List.rdropWhile_eq_nil_iff]
    simpa using h
  have hsplit : t = kept.rdropWhile (! CodePoint.isBlank ·) ++
      (kept.rtakeWhile (! CodePoint.isBlank ·) ++ t.rtakeWhile CodePoint.isBlank) := by
    rw [← List.append_assoc, List.rdropWhile_append_rtakeWhile, hkept,
      List.rdropWhile_append_rtakeWhile]
  refine ⟨kept.rtakeWhile (! CodePoint.isBlank ·), ?_⟩
  rw [hsplit]
  refine .mk ?_ ?_ ?_ ?_
  · intro c hc
    have hbefore : kept.rdropWhile (! CodePoint.isBlank ·) ≠ [] := by
      rintro hnil
      rw [hnil] at hc
      cases hc
    rw [List.getLast?_eq_some_getLast hbefore, Option.some_inj] at hc
    have hnot := List.rdropWhile_last_not (! CodePoint.isBlank ·) kept hbefore
    simpa [hc] using hnot
  · rw [ne_eq, List.rtakeWhile_eq_nil_iff]
    intro hnot
    subst hkept
    exact hnot hne (by simpa using List.rdropWhile_last_not CodePoint.isBlank t hne)
  · intro c hc
    simpa using List.mem_rtakeWhile_imp hc
  · intro c hc
    exact List.mem_rtakeWhile_imp hc

/-! ## Cutting into words -/

theorem wordsFrom_append {u : Text} (h : ∀ c ∈ u, c.isBlank = false) (word t : Text) :
    wordsFrom word (u ++ t) = wordsFrom (u.reverse ++ word) t := by
  induction u generalizing word with
  | nil => rfl
  | cons c u ih =>
    rw [List.forall_mem_cons] at h
    rw [List.cons_append, wordsFrom, if_neg (by simp [h.1]), ih h.2, List.reverse_cons,
      List.append_assoc]
    rfl

/-- A blank parts the words before it from those after it. -/
theorem wordsFrom_append_cons {b : CodePoint} (h : b.isBlank = true) (word t rest : Text) :
    wordsFrom word (t ++ b :: rest) = wordsFrom word t ++ words rest := by
  induction t generalizing word with
  | nil =>
    have hcut : wordsFrom word (b :: rest) =
        if word.isEmpty then words rest else word.reverse :: words rest := if_pos h
    rw [List.nil_append, hcut, wordsFrom]
    split <;> rfl
  | cons c t ih =>
    rw [List.cons_append, wordsFrom, wordsFrom]
    split
    · split
      · rw [ih]
      · rw [ih, List.cons_append]
    · rw [ih]

theorem words_blanks {blanks : Text} (h : ∀ c ∈ blanks, c.isBlank = true) : words blanks = [] := by
  induction blanks with
  | nil => rfl
  | cons b blanks ih =>
    rw [List.forall_mem_cons] at h
    exact (wordsFrom_append_cons h.1 [] [] blanks).trans (ih h.2)

theorem words_word {word blanks : Text} (hne : word ≠ []) (hword : ∀ c ∈ word, c.isBlank = false)
    (hblanks : ∀ c ∈ blanks, c.isBlank = true) : words (word ++ blanks) = [word] := by
  rw [words, wordsFrom_append hword, List.append_nil]
  have hsingle : wordsFrom word.reverse [] = [word] := by
    rw [wordsFrom, if_neg (by simpa using hne), List.reverse_reverse]
  cases blanks with
  | nil => exact hsingle
  | cons b blanks =>
    rw [List.forall_mem_cons] at hblanks
    have hcut := wordsFrom_append_cons hblanks.1 word.reverse [] blanks
    rw [List.nil_append, hsingle, words_blanks hblanks.2] at hcut
    exact hcut

theorem LastWord.getLast?_words {t word : Text} (h : LastWord t word) :
    (words t).getLast? = some word := by
  obtain @⟨before, word, blanks, hbefore, hne, hword, hblanks⟩ := h
  have hlast := words_word hne hword hblanks
  rcases List.eq_nil_or_concat before with rfl | ⟨before, b, rfl⟩
  · rw [List.nil_append, hlast]
    rfl
  · rw [List.concat_eq_append] at hbefore ⊢
    have hb := hbefore b List.getLast?_concat
    have hcut := wordsFrom_append_cons hb [] before (word ++ blanks)
    rw [hlast] at hcut
    rw [List.append_assoc, List.singleton_append, words, hcut, List.getLast?_concat]

end Text

end DartComments
