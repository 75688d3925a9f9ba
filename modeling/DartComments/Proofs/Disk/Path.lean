import DartComments.Disk.Path

/-!
# Paths and their texts

Splitting a text gives names: components that are not empty, no single dot, and without a slash.
A path of names is read back from its text,

    ofText (text p) = p                     for at most two slashes      (ofText_text)

and normalising a text from a working directory evaluates the components of both on a stack, on
which `..` takes the last one away (`normalise_relative`, `normalise_absolute`). What comes out is in
normal form (`isNormal_normalise`), and what is in normal form stays as it is.
-/

namespace DartComments

/-! ## Splitting -/

namespace Text

theorem splitOn_append_cons (sep : CodePoint) (a b : Text) :
    splitOn sep (a ++ sep :: b) = splitOn sep a ++ splitOn sep b := by
  induction a with
  | nil =>
    show splitOn sep (sep :: b) = [] :: splitOn sep b
    rw [splitOn, if_pos rfl]
  | cons c a ih =>
    rw [List.cons_append, splitOn, splitOn, ih]
    split
    · rfl
    · have hne := splitOn_ne_nil sep a
      cases h : splitOn sep a with
      | nil => exact absurd h hne
      | cons p ps => rfl

theorem splitOn_of_not_mem {sep : CodePoint} {t : Text} (h : sep ∉ t) : splitOn sep t = [t] := by
  induction t with
  | nil => rfl
  | cons c t ih =>
    rw [List.mem_cons, not_or] at h
    rw [splitOn, if_neg (Ne.symm h.1), ih h.2]

theorem not_mem_of_mem_splitOn {sep : CodePoint} {t p : Text} (h : p ∈ splitOn sep t) :
    sep ∉ p := by
  induction t generalizing p with
  | nil =>
    rw [splitOn, List.mem_singleton] at h
    subst h
    exact List.not_mem_nil
  | cons c t ih =>
    rw [splitOn] at h
    split at h
    · rcases List.mem_cons.mp h with rfl | h
      · exact List.not_mem_nil
      · exact ih h
    · next hc =>
      cases hs : splitOn sep t with
      | nil => exact absurd hs (splitOn_ne_nil sep t)
      | cons q qs =>
        rw [hs] at h ih
        rcases List.mem_cons.mp h with rfl | h
        · rw [List.mem_cons, not_or]
          exact ⟨Ne.symm hc, ih List.mem_cons_self⟩
        · exact ih (List.mem_cons_of_mem q h)

end Text

namespace Path

/-- A component as splitting gives it. -/
structure IsName (c : Text) : Prop where
  plain : isPlain c = true
  no_slash : slash ∉ c

theorem IsName.ne_nil {c : Text} (h : IsName c) : c ≠ [] := by
  rintro rfl
  have := h.plain
  simp [isPlain] at this

theorem components_append (a b : Text) :
    components (a ++ slash :: b) = components a ++ components b := by
  rw [components, Text.splitOn_append_cons, List.filter_append]
  rfl

theorem isName_of_mem_components {t c : Text} (h : c ∈ components t) : IsName c := by
  obtain ⟨hm, hp⟩ := List.mem_filter.mp h
  exact ⟨hp, Text.not_mem_of_mem_splitOn hm⟩

theorem components_of_isName {c : Text} (h : IsName c) : components c = [c] := by
  rw [components, Text.splitOn_of_not_mem h.no_slash, List.filter_cons_of_pos h.plain,
    List.filter_nil]

/-- Names joined with slashes are the components of the text. -/
theorem components_join {parts : List Text} (h : ∀ c ∈ parts, IsName c) :
    components (Text.join [slash] parts) = parts := by
  induction parts with
  | nil => rfl
  | cons c parts ih =>
    have hc := h c List.mem_cons_self
    have hrest := ih fun d hd => h d (List.mem_cons_of_mem c hd)
    cases parts with
    | nil =>
      have hj : Text.join [slash] [c] = c := by
        simp [Text.join, List.intercalate]
      rw [hj, components_of_isName hc]
    | cons d parts =>
      rw [Text.join_cons_cons, List.append_assoc, List.singleton_append, components_append,
        components_of_isName hc, hrest, List.singleton_append]

/-! ## Leading slashes -/

theorem leadingSlashes_le (t : Text) : leadingSlashes t ≤ 2 := by
  rw [leadingSlashes]
  split <;> omega

theorem takeWhile_slash_eq_nil {t : Text} (h : t.head? ≠ some slash) :
    t.takeWhile (· = slash) = [] := by
  cases t with
  | nil => rfl
  | cons c t =>
    have hc : c ≠ slash := fun he => h (congrArg some he)
    exact List.takeWhile_cons_of_neg (by simpa using hc)

theorem leadingSlashes_replicate {s : Nat} (hs : s ≤ 2) {t : Text} (h : t.head? ≠ some slash) :
    leadingSlashes (List.replicate s slash ++ t) = s := by
  have hlen : ((List.replicate s slash ++ t).takeWhile (· = slash)).length = s := by
    rw [List.takeWhile_append_of_pos (by simp), takeWhile_slash_eq_nil h, List.append_nil,
      List.length_replicate]
  rw [leadingSlashes, hlen]
  match s, hs with
  | 0, _ => rfl
  | 1, _ => rfl
  | 2, _ => rfl

theorem head?_join {parts : List Text} (h : ∀ c ∈ parts, IsName c) :
    (Text.join [slash] parts).head? ≠ some slash := by
  cases parts with
  | nil => simp [Text.join]
  | cons c parts =>
    have hc := h c List.mem_cons_self
    obtain ⟨x, xs, rfl⟩ := List.exists_cons_of_ne_nil hc.ne_nil
    have hx : x ≠ slash := fun he => hc.no_slash (he ▸ List.mem_cons_self)
    have hj : (Text.join [slash] ((x :: xs) :: parts)).head? = some x := by
      cases parts with
      | nil => simp [Text.join]
      | cons d parts =>
        rw [Text.join_cons_cons]
        rfl
    rw [hj]
    simpa using hx

/-- The text of a path with slashes or parts. -/
theorem text_eq {p : Path} (h : p.slashes ≠ 0 ∨ p.parts ≠ []) :
    p.text = List.replicate p.slashes slash ++ Text.join [slash] p.parts := by
  rw [text, if_neg]
  rcases h with h | h <;> simp [h]

theorem components_replicate (s : Nat) (t : Text) :
    components (List.replicate s slash ++ t) = components t := by
  induction s with
  | zero => rfl
  | succ s ih =>
    rw [List.replicate_succ, List.cons_append, ← List.nil_append (slash :: _), components_append,
      ih]
    rfl

/-- A path of names is read back from its text. -/
theorem ofText_text {p : Path} (hs : p.slashes ≤ 2) (hp : ∀ c ∈ p.parts, IsName c) :
    ofText p.text = p := by
  obtain ⟨s, parts⟩ := p
  by_cases h : s ≠ 0 ∨ parts ≠ []
  · rw [text_eq h, ofText, leadingSlashes_replicate hs (head?_join hp), components_replicate,
      components_join hp]
  · obtain ⟨rfl, rfl⟩ : s = 0 ∧ parts = [] := by simpa using h
    rfl

/-! ## Normal form -/

/-- Components evaluated on a stack: `..` takes the last one away, and is nothing at the root. -/
def evaluate (cs : List Text) : List Text := (cs.foldl (pushComponent true) []).reverse

theorem pushComponent_of_ne {c : Text} (h : c ≠ dotDot) (rooted : Bool) (before : List Text) :
    pushComponent rooted before c = c :: before := by
  unfold pushComponent
  rw [if_pos h]

theorem pushComponent_dotDot {before : List Text} (h : dotDot ∉ before) :
    pushComponent true before dotDot = before.tail := by
  unfold pushComponent
  rw [if_neg (fun hne => hne rfl)]
  cases before with
  | nil => rfl
  | cons b bs =>
    have hb : b ≠ dotDot := fun he => h (he ▸ List.mem_cons_self)
    show (if b = dotDot then _ else bs) = bs
    rw [if_neg hb]

theorem foldl_pushComponent {cs : List Text} (h : dotDot ∉ cs) (rooted : Bool)
    (before : List Text) : cs.foldl (pushComponent rooted) before = cs.reverse ++ before := by
  induction cs generalizing before with
  | nil => rfl
  | cons c cs ih =>
    rw [List.mem_cons, not_or] at h
    rw [List.foldl_cons, ih h.2, pushComponent_of_ne (Ne.symm h.1), List.reverse_cons,
      List.append_assoc, List.singleton_append]

/-- Without `..` there is nothing to evaluate. -/
theorem evaluate_of_not_mem {cs : List Text} (h : dotDot ∉ cs) : evaluate cs = cs := by
  rw [evaluate, foldl_pushComponent h, List.append_nil, List.reverse_reverse]

/-- What is left on the stack are components, and none is `..`. -/
theorem mem_evaluate {cs : List Text} {c : Text} (h : c ∈ evaluate cs) : c ∈ cs ∧ c ≠ dotDot := by
  have key : ∀ (rest before : List Text), (∀ d ∈ before, d ∈ cs ∧ d ≠ dotDot) → rest ⊆ cs →
      ∀ d ∈ rest.foldl (pushComponent true) before, d ∈ cs ∧ d ≠ dotDot := by
    intro rest
    induction rest with
    | nil => exact fun before hb _ => hb
    | cons e rest ih =>
      intro before hb hsub
      rw [List.cons_subset] at hsub
      refine ih _ ?_ hsub.2
      by_cases he : e = dotDot
      · rw [he, pushComponent_dotDot fun hm => (hb _ hm).2 rfl]
        exact fun d hd => hb d (List.mem_of_mem_tail hd)
      · rw [pushComponent_of_ne he]
        exact List.forall_mem_cons.mpr ⟨⟨hsub.1, he⟩, hb⟩
  exact key cs [] (by simp) (List.Subset.refl cs) c (List.mem_reverse.mp h)

/-- A text with leading slashes is evaluated from the root. -/
theorem normaliseText_eq {t : Text} (h : leadingSlashes t ≠ 0) :
    normaliseText t = text ⟨leadingSlashes t, evaluate (components t)⟩ := by
  have hpos : decide (0 < leadingSlashes t) = true := by
    rw [decide_eq_true_eq]
    omega
  rw [normaliseText, hpos]
  rfl

theorem ofText_normaliseText {t : Text} (h : leadingSlashes t ≠ 0) :
    ofText (normaliseText t) = ⟨leadingSlashes t, evaluate (components t)⟩ := by
  rw [normaliseText_eq h]
  exact ofText_text (leadingSlashes_le t) fun c hc =>
    isName_of_mem_components (mem_evaluate hc).1

/-- The working directory does not matter to a text with leading slashes. -/
theorem normalise_absolute (cwd : Text) {t : Text} (h : leadingSlashes t ≠ 0) :
    normalise cwd t = ⟨leadingSlashes t, evaluate (components t)⟩ := by
  rw [normalise, absoluteText, if_neg h, ofText_normaliseText h]

theorem head?_ne_of_leadingSlashes {t : Text} (h : leadingSlashes t = 0) :
    t.head? ≠ some slash := by
  intro hs
  cases t with
  | nil => cases hs
  | cons c t =>
    cases hs
    rw [leadingSlashes, List.takeWhile_cons_of_pos (by simp), List.length_cons] at h
    split at h
    · next he => omega
    · cases h
    · cases h

/-- What follows a text does not count with its leading slashes, unless these go on. -/
theorem leadingSlashes_append {a b : Text} (h : (∃ c ∈ a, c ≠ slash) ∨ b.head? ≠ some slash) :
    leadingSlashes (a ++ b) = leadingSlashes a := by
  have htake : (a ++ b).takeWhile (· = slash) = a.takeWhile (· = slash) := by
    rw [List.takeWhile_append]
    split
    · next hall =>
      have ha : a.takeWhile (· = slash) = a :=
        (List.takeWhile_sublist _).eq_of_length hall
      rcases h with ⟨c, hc, hne⟩ | hb
      · rw [← ha] at hc
        have hslash := List.all_eq_true.mp List.all_takeWhile c hc
        exact absurd (of_decide_eq_true hslash) hne
      · rw [takeWhile_slash_eq_nil hb, List.append_nil, ha]
    · rfl
  rw [leadingSlashes, leadingSlashes, htake]

/-- Seen from a directory that starts with a slash, a text has the components of both behind the
slashes of the directory. -/
theorem absoluteText_relative {cwd : Text} (hcwd : cwd.head? = some slash) {t : Text}
    (h : leadingSlashes t = 0) : leadingSlashes (absoluteText cwd t) = leadingSlashes cwd ∧
      components (absoluteText cwd t) = components cwd ++ components t := by
  rw [absoluteText, if_pos h]
  split
  · next hlast =>
    obtain ⟨dir, rfl⟩ := List.getLast?_eq_some_iff.mp hlast
    refine ⟨leadingSlashes_append (.inr (head?_ne_of_leadingSlashes h)), ?_⟩
    have hdir : components (dir ++ [slash]) = components dir := by
      rw [components_append]
      exact List.append_nil _
    rw [hdir, List.append_assoc, List.singleton_append, components_append]
  · next hlast =>
    have hne : cwd ≠ [] := by
      rintro rfl
      cases hcwd
    have hname : ∃ c ∈ cwd, c ≠ slash := by
      refine ⟨cwd.getLast hne, List.getLast_mem hne, fun heq => hlast ?_⟩
      rw [List.getLast?_eq_some_getLast hne, heq]
    rw [List.append_assoc, List.singleton_append]
    exact ⟨leadingSlashes_append (.inl hname), components_append cwd t⟩

theorem head?_text (cwd : List Text) : (text ⟨1, cwd⟩).head? = some slash := by
  rw [text_eq (.inl Nat.one_ne_zero)]
  rfl

/-- A text without leading slashes is evaluated from the working directory. -/
theorem normalise_relative {cwd : List Text} (hcwd : ∀ c ∈ cwd, IsName c) {t : Text}
    (h : leadingSlashes t = 0) :
    normalise (text ⟨1, cwd⟩) t = ⟨1, evaluate (cwd ++ components t)⟩ := by
  have hback : ofText (text ⟨1, cwd⟩) = ⟨1, cwd⟩ := ofText_text (Nat.le_succ 1) hcwd
  have hslashes : leadingSlashes (text ⟨1, cwd⟩) = 1 := congrArg Path.slashes hback
  have hparts : components (text ⟨1, cwd⟩) = cwd := congrArg Path.parts hback
  obtain ⟨hslashes', hparts'⟩ := absoluteText_relative (head?_text cwd) h
  rw [normalise, ofText_normaliseText (by omega), hslashes', hparts', hslashes, hparts]

/-- Seen from a directory every text has leading slashes. -/
theorem leadingSlashes_absoluteText {cwd : Text} (hcwd : cwd.head? = some slash) (t : Text) :
    leadingSlashes (absoluteText cwd t) ≠ 0 := by
  by_cases h : leadingSlashes t = 0
  · rw [(absoluteText_relative hcwd h).1]
    exact fun h0 => head?_ne_of_leadingSlashes h0 hcwd
  · rwa [absoluteText, if_neg h]

/-- A path from the root without empty components, dots, `..`, or slashes in a component. -/
structure IsNormal (p : Path) : Prop where
  isAbsolute : p.isAbsolute = true
  slashes_le : p.slashes ≤ 2
  ne_nil : [] ∉ p.parts
  no_dot : dot ∉ p.parts
  no_dotDot : dotDot ∉ p.parts
  no_slash : ∀ c ∈ p.parts, slash ∉ c

namespace IsNormal

variable {p : Path}

theorem slashes_pos (h : p.IsNormal) : 0 < p.slashes := of_decide_eq_true h.isAbsolute

theorem isName (h : p.IsNormal) {c : Text} (hc : c ∈ p.parts) : IsName c := by
  refine ⟨?_, h.no_slash c hc⟩
  have hnil : c ≠ [] := fun he => h.ne_nil (he ▸ hc)
  have hdot : c ≠ dot := fun he => h.no_dot (he ▸ hc)
  simp [isPlain, hnil, hdot]

/-- A path in normal form is read back from its text. -/
theorem ofText_text (h : p.IsNormal) : ofText p.text = p :=
  Path.ofText_text h.slashes_le fun _ => h.isName

/-- The text of a path in normal form stays as it is. -/
theorem normaliseText_text (h : p.IsNormal) : normaliseText p.text = p.text := by
  have hslashes : leadingSlashes p.text = p.slashes := congrArg Path.slashes h.ofText_text
  have hparts : components p.text = p.parts := congrArg Path.parts h.ofText_text
  have hpos := h.slashes_pos
  rw [normaliseText_eq (by omega), hslashes, hparts, evaluate_of_not_mem h.no_dotDot]

/-- A path in normal form stays as it is, wherever it is seen from. -/
theorem normalise_text (h : p.IsNormal) (cwd : Text) : normalise cwd p.text = p := by
  have hslashes : leadingSlashes p.text = p.slashes := congrArg Path.slashes h.ofText_text
  have hpos := h.slashes_pos
  rw [normalise, absoluteText, if_neg (by omega), h.normaliseText_text, h.ofText_text]

end IsNormal

/-- What has been normalised is in normal form. -/
theorem isNormal_normalise {cwd : Text} (hcwd : cwd.head? = some slash) (t : Text) :
    (normalise cwd t).IsNormal := by
  have hpos := leadingSlashes_absoluteText hcwd t
  have heq : normalise cwd t = _ := ofText_normaliseText hpos
  have hmem : ∀ c ∈ (normalise cwd t).parts, IsName c ∧ c ≠ dotDot := by
    intro c hc
    rw [heq] at hc
    obtain ⟨hc, hne⟩ := mem_evaluate hc
    exact ⟨isName_of_mem_components hc, hne⟩
  refine ⟨?_, ?_, fun hm => (hmem _ hm).1.ne_nil rfl, fun hm => ?_, fun hm => (hmem _ hm).2 rfl,
    fun c hc => (hmem c hc).1.no_slash⟩
  · rw [heq]
    exact decide_eq_true (Nat.pos_of_ne_zero hpos)
  · rw [heq]
    exact leadingSlashes_le _
  · have hplain := (hmem _ hm).1.plain
    simp [isPlain] at hplain

end Path

end DartComments
