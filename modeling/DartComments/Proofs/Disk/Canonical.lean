import DartComments.Proofs.Disk.Path

/-!
# One path for all spellings

A spelling is resolved from left to right on a stack: what stands between two slashes is pushed,
`..` takes the last one away unless there is none, and nothing or a single dot changes nothing
(`resolve`). Normalising comes to the same stack behind one slash, or behind two where the spelling
or else the working directory has exactly two,

    (normalise cwd t).parts = resolve (pieces cwd t)                            (normalise_eq)

so that the path is in normal form, stays as it is from then on, and is shared by exactly those
spellings that are resolved to the same stack and agree on the two slashes (`normalise_canonical`).
It is the path under which a session keeps a unit.
-/

namespace DartComments

namespace Path

/-! ## Resolving a spelling -/

/-- What a piece of a spelling does to the components before it. -/
def visit (stack : List Text) (c : Text) : List Text :=
  if c = [] ∨ c = dot then stack
  else if c = dotDot then stack.dropLast
  else stack ++ [c]

/-- The components that the pieces of a spelling leave, from the root on. -/
def resolve (pieces : List Text) : List Text := pieces.foldl visit []

/-- What stands between the slashes of a spelling, after what stands between those of the working
directory unless the spelling starts with a slash. -/
def pieces (cwd t : Text) : List Text :=
  if t.head? = some slash then t.splitOn slash else cwd.splitOn slash ++ t.splitOn slash

/-- Where a spelling starts from: itself if it starts with a slash, else the working directory. -/
def origin (cwd t : Text) : Text := if t.head? = some slash then t else cwd

/-- A text with exactly two leading slashes. -/
def HasTwoSlashes (t : Text) : Prop :=
  ∃ rest, t = slash :: slash :: rest ∧ rest.head? ≠ some slash

theorem not_isPlain_iff {c : Text} : isPlain c = false ↔ c = [] ∨ c = dot := by
  rw [isPlain, Bool.and_eq_false_iff]
  simp

section

variable {stack : List Text} {c : Text}

theorem visit_of_not_plain (hc : isPlain c = false) : visit stack c = stack :=
  if_pos (not_isPlain_iff.mp hc)

theorem visit_dotDot : visit stack dotDot = stack.dropLast := by
  rw [visit, if_neg (by decide), if_pos rfl]

theorem visit_name (hc : isPlain c = true) (hne : c ≠ dotDot) : visit stack c = stack ++ [c] := by
  have hblank : ¬ (c = [] ∨ c = dot) := by
    rw [← not_isPlain_iff, hc]
    exact Bool.noConfusion
  rw [visit, if_neg hblank, if_neg hne]

/-- No `..` ever gets on the stack. -/
theorem dotDot_not_mem_visit (hstack : dotDot ∉ stack) (c : Text) : dotDot ∉ visit stack c := by
  cases hc : isPlain c with
  | false => rwa [visit_of_not_plain hc]
  | true =>
    by_cases hdots : c = dotDot
    · rw [hdots, visit_dotDot]
      exact fun hm => hstack ((List.dropLast_sublist stack).subset hm)
    · rw [visit_name hc hdots]
      simpa [hstack] using Ne.symm hdots

/-- A plain piece does the same to the stack and to the components in reverse. -/
theorem reverse_visit (hstack : dotDot ∉ stack) (hc : isPlain c = true) :
    (visit stack c).reverse = pushComponent true stack.reverse c := by
  by_cases hdots : c = dotDot
  · rw [hdots, visit_dotDot, pushComponent_dotDot (by simpa using hstack), List.tail_reverse]
  · rw [visit_name hc hdots, pushComponent_of_ne hdots, List.reverse_append]
    rfl

end

theorem reverse_foldl_visit (cs : List Text) {stack : List Text} (hstack : dotDot ∉ stack) :
    (cs.foldl visit stack).reverse =
      (cs.filter isPlain).foldl (pushComponent true) stack.reverse := by
  induction cs generalizing stack with
  | nil => rfl
  | cons c cs ih =>
    rw [List.foldl_cons, ih (dotDot_not_mem_visit hstack c)]
    cases hc : isPlain c with
    | false => rw [visit_of_not_plain hc, List.filter_cons_of_neg (by simp [hc])]
    | true => rw [List.filter_cons_of_pos hc, List.foldl_cons, reverse_visit hstack hc]

/-- The stack of a spelling is what its components evaluate to. -/
theorem resolve_eq (cs : List Text) : resolve cs = evaluate (cs.filter isPlain) := by
  have hreverse := reverse_foldl_visit cs (List.not_mem_nil (a := dotDot))
  rw [resolve, evaluate, ← List.reverse_reverse (cs.foldl visit []), hreverse]
  rfl

/-! ## Leading slashes -/

theorem leadingSlashes_eq_zero {t : Text} : leadingSlashes t = 0 ↔ t.head? ≠ some slash := by
  refine ⟨head?_ne_of_leadingSlashes, fun h => ?_⟩
  rw [leadingSlashes, takeWhile_slash_eq_nil h]
  rfl

theorem leadingSlashes_eq_two {t : Text} : leadingSlashes t = 2 ↔ HasTwoSlashes t := by
  constructor
  · intro h
    have hlength : (t.takeWhile (· = slash)).length = 2 := by
      rw [leadingSlashes] at h
      split at h
      · cases h
      · next hlength => exact hlength
      · cases h
    have htake : t.takeWhile (· = slash) = [slash, slash] := by
      refine List.eq_replicate_iff.mpr ⟨hlength, fun c hc => ?_⟩
      exact of_decide_eq_true (List.all_eq_true.mp List.all_takeWhile c hc)
    refine ⟨t.dropWhile (· = slash), ?_, fun hhead => ?_⟩
    · have hsplit := List.takeWhile_append_dropWhile (p := (· = slash)) (l := t)
      rw [htake] at hsplit
      exact hsplit.symm
    · have hnot := List.head?_dropWhile_not (· = slash) t
      rw [hhead] at hnot
      simp at hnot
  · rintro ⟨rest, rfl, hrest⟩
    exact leadingSlashes_replicate (s := 2) (Nat.le_refl 2) hrest

instance (t : Text) : Decidable (HasTwoSlashes t) := decidable_of_iff _ leadingSlashes_eq_two

/-- Two texts from the root have the same leading slashes if both or neither have exactly two. -/
theorem leadingSlashes_eq_iff {a b : Text} (ha : a.head? = some slash) (hb : b.head? = some slash) :
    leadingSlashes a = leadingSlashes b ↔ (HasTwoSlashes a ↔ HasTwoSlashes b) := by
  have ha0 : leadingSlashes a ≠ 0 := fun h => leadingSlashes_eq_zero.mp h ha
  have hb0 : leadingSlashes b ≠ 0 := fun h => leadingSlashes_eq_zero.mp h hb
  have ha2 := leadingSlashes_le a
  have hb2 := leadingSlashes_le b
  rw [← leadingSlashes_eq_two, ← leadingSlashes_eq_two]
  omega

/-! ## Normal form -/

section

variable {cwd : Text} (hcwd : cwd.head? = some slash) (t : Text)

include hcwd

theorem head?_origin : (origin cwd t).head? = some slash := by
  rw [origin]
  split
  · next h => exact h
  · exact hcwd

/-- Normalising resolves a spelling. -/
theorem normalise_eq :
    normalise cwd t = ⟨leadingSlashes (origin cwd t), resolve (pieces cwd t)⟩ := by
  rw [resolve_eq]
  by_cases h : t.head? = some slash
  · rw [origin, pieces, if_pos h, if_pos h]
    exact normalise_absolute cwd fun h0 => leadingSlashes_eq_zero.mp h0 h
  · obtain ⟨hslashes, hparts⟩ := absoluteText_relative hcwd (leadingSlashes_eq_zero.mpr h)
    rw [normalise, ofText_normaliseText (leadingSlashes_absoluteText hcwd t), hslashes, hparts,
      origin, pieces, if_neg h, if_neg h, List.filter_append]
    rfl

end

/-- **One path for all spellings.** Seen from any directory, a spelling is normalised to a path in
normal form, which stays as it is wherever it is seen from. Its components are those that the
spelling is resolved to, and it has two slashes exactly when the spelling, or else the directory,
starts with exactly two. So two spellings come to the same path exactly when they agree on both. -/
theorem normalise_canonical {cwd : Text} (hcwd : cwd.head? = some slash) (t : Text) :
    IsNormal (normalise cwd t) ∧
      normaliseText (normalise cwd t).text = (normalise cwd t).text ∧
      (∀ dir, normalise dir (normalise cwd t).text = normalise cwd t) ∧
      (normalise cwd t).parts = resolve (pieces cwd t) ∧
      ((normalise cwd t).slashes = 2 ↔ HasTwoSlashes (origin cwd t)) ∧
      ((normalise cwd t).slashes = 1 ↔ ¬ HasTwoSlashes (origin cwd t)) ∧
      ∀ cwd' t', cwd'.head? = some slash → (normalise cwd t = normalise cwd' t' ↔
        resolve (pieces cwd t) = resolve (pieces cwd' t') ∧
          (HasTwoSlashes (origin cwd t) ↔ HasTwoSlashes (origin cwd' t'))) := by
  have hslashes : (normalise cwd t).slashes = 2 ↔ HasTwoSlashes (origin cwd t) := by
    rw [normalise_eq hcwd, leadingSlashes_eq_two]
  have hnormal := isNormal_normalise hcwd t
  refine ⟨hnormal, hnormal.normaliseText_text, hnormal.normalise_text, by rw [normalise_eq hcwd],
    hslashes, ?_, fun cwd' t' hcwd' => ?_⟩
  · have hpos := hnormal.slashes_pos
    have hle := hnormal.slashes_le
    rw [← hslashes]
    omega
  · rw [normalise_eq hcwd, normalise_eq hcwd', Path.mk.injEq, and_comm,
      leadingSlashes_eq_iff (head?_origin hcwd t) (head?_origin hcwd' t')]

/-- From `/home/me` a spelling with needless parts comes to the path that three slashes and a slash
at the end come to, wherever they are seen from; with two slashes the path is another one. -/
theorem home_spellings :
    (Text.ofString "/home/me").head? = some slash ∧ (Text.ofString "/tmp").head? = some slash ∧
      normalise "/home/me" "..//me/./x/../a.dart" = normalise "/tmp" "///../home/me/a.dart/" ∧
      normalise "/home/me" "..//me/./x/../a.dart" ≠ normalise "/tmp" "//home/me/a.dart" := by
  have hhome : (Text.ofString "/home/me").head? = some slash := by decide
  have htmp : (Text.ofString "/tmp").head? = some slash := by decide
  obtain ⟨-, -, -, -, -, -, hsame⟩ := normalise_canonical hhome "..//me/./x/../a.dart"
  refine ⟨hhome, htmp, (hsame "/tmp" _ htmp).mpr (by decide), fun h => ?_⟩
  exact absurd ((hsame "/tmp" _ htmp).mp h).2 (by decide)

end Path

end DartComments
