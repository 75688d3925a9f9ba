import DartComments.Proofs.Result
import DartComments.Prompt.Template
import Mathlib.Data.List.TakeWhile
import Mathlib.Tactic.MkIffOfInductiveProp

/-!
# Templates without layouts

A template that is written as texts, with their braces doubled, and fields that name arguments is
filled in as it reads: the texts stay as they are and each field becomes its argument, whatever
stands in that (`expand_write`). The pieces of such a template are found one part at a time.
-/

namespace DartComments

namespace Template

/-- A part of a template without layouts: a text, or the name of an argument. -/
inductive Part where
  | text (t : Text)
  | field (name : Text)

/-- A brace that is text is doubled. -/
def double (c : CodePoint) : Text := if c = openBrace ∨ c = closeBrace then [c, c] else [c]

namespace Part

/-- How a part is written in a template. -/
def write : Part → Text
  | .text t => t.flatMap double
  | .field name => openBrace :: (name ++ [closeBrace])

/-- What becomes of a part. -/
def fill (args : Arguments) : Part → Text
  | .text t => t
  | .field name => (args.lookup name).getD []

end Part

/-- A code point that means nothing else in the path of a field. -/
@[mk_iff]
structure IsPlain (c : CodePoint) : Prop where
  ne_openBrace : c ≠ openBrace
  ne_closeBrace : c ≠ closeBrace
  ne_colon : c ≠ .char ':'
  ne_mark : c ≠ .char '!'
  ne_bracket : c ≠ .char '['
  ne_dot : c ≠ .char '.'
  digit? : c.digit? = none

/-- A name that is read as the name of an argument. -/
@[mk_iff]
structure IsWord (name : Text) : Prop where
  ne_nil : name ≠ []
  plain : ∀ c ∈ name, IsPlain c

instance (c : CodePoint) : Decidable (IsPlain c) := decidable_of_iff _ (isPlain_iff c).symm

instance (name : Text) : Decidable (IsWord name) := decidable_of_iff _ (isWord_iff name).symm

/-! ## Pieces -/

theorem pieces_literal {c : CodePoint} (h : c ≠ openBrace) (h' : c ≠ closeBrace) (rest : Text) :
    pieces 0 (c :: rest) = .literal c :: pieces 0 rest := by
  conv_lhs => unfold pieces
  rw [if_neg h, if_neg h']

theorem pieces_openBrace {t after : Text} {f : Field} (h : t.head? ≠ some openBrace)
    (hf : readField t = .ok (f, after)) :
    pieces 0 (openBrace :: t) = .field f :: pieces (t.length - after.length) t := by
  cases t with
  | nil => cases hf
  | cons d rest =>
    have hd : d ≠ openBrace := by simpa using h
    conv_lhs => unfold pieces
    rw [if_pos rfl]
    dsimp only
    rw [if_neg hd, hf]

theorem pieces_double (c : CodePoint) (rest : Text) :
    pieces 0 (double c ++ rest) = .literal c :: pieces 0 rest := by
  rw [double]
  split
  · next hbrace =>
    rcases hbrace with rfl | rfl
    · rfl
    · rfl
  · next hbrace =>
    rw [not_or] at hbrace
    exact pieces_literal hbrace.1 hbrace.2 rest

theorem pieces_text (t rest : Text) :
    pieces 0 (t.flatMap double ++ rest) = t.map .literal ++ pieces 0 rest := by
  induction t with
  | nil => rfl
  | cons c t ih =>
    rw [List.flatMap_cons, List.append_assoc, pieces_double, ih]
    rfl

/-- What is skipped is not looked at. -/
theorem pieces_length (t rest : Text) : pieces t.length (t ++ rest) = pieces 0 rest := by
  induction t with
  | nil => rfl
  | cons c t ih => rw [List.length_cons, List.cons_append, pieces, ih]

theorem readPath_plain {name : Text} (h : ∀ c ∈ name, IsPlain c) (rest : Text) :
    readPath false (name ++ closeBrace :: rest) = .ok (name, .close, rest) := by
  induction name with
  | nil => rfl
  | cons c name ih =>
    rw [List.forall_mem_cons] at h
    obtain ⟨hc, hname⟩ := h
    have hbracket : decide (c = .char '[') = false := decide_eq_false hc.ne_bracket
    rw [List.cons_append, readPath, if_neg (by simp), if_neg hc.ne_openBrace,
      if_neg hc.ne_closeBrace, if_neg hc.ne_colon, if_neg hc.ne_mark, hbracket, ih hname]
    rfl

theorem pieces_field {name : Text} (h : IsWord name) (rest : Text) :
    pieces 0 (openBrace :: (name ++ [closeBrace]) ++ rest) =
      .field { path := name } :: pieces 0 rest := by
  have hread : readField (name ++ closeBrace :: rest) = .ok ({ path := name }, rest) := by
    rw [readField, readPath_plain h.plain]
    rfl
  have hskip : pieces (name.length + 1) (name ++ closeBrace :: rest) = pieces 0 rest := by
    have := pieces_length (name ++ [closeBrace]) rest
    rwa [List.length_append, List.append_assoc] at this
  have hhead : (name ++ closeBrace :: rest).head? ≠ some openBrace := by
    obtain ⟨c, name, rfl⟩ := List.exists_cons_of_ne_nil h.ne_nil
    simpa using (h.plain c List.mem_cons_self).ne_openBrace
  rw [List.cons_append, List.append_assoc, List.singleton_append, pieces_openBrace hhead hread,
    ← hskip, List.length_append, List.length_cons, ← Nat.add_assoc, Nat.add_right_comm,
    Nat.add_sub_cancel]

/-! ## Filling in -/

theorem concat_literals (field : Field → Except TemplateError Text) (t : Text) (ps : List Piece) :
    concat field (t.map .literal ++ ps) = (concat field ps).map (t ++ ·) := by
  induction t with
  | nil => cases h : concat field ps <;> simp [h, Except.map]
  | cons c t ih =>
    rw [List.map_cons, List.cons_append, concat, ih]
    cases concat field ps <;> rfl

theorem readIndex_plain {name : Text} (h : IsWord name) : readIndex 0 name = .ok none := by
  obtain ⟨c, name, rfl⟩ := List.exists_cons_of_ne_nil h.ne_nil
  rw [readIndex, (h.plain c List.mem_cons_self).digit?]

theorem valueAt_word {args : Arguments} {name value : Text} (h : IsWord name)
    (hv : args.lookup name = some value) : valueAt args name = .ok (.text value) := by
  have hall : name.takeWhile (! isStepMark ·) = name := by
    refine List.takeWhile_eq_self_iff.mpr fun c hc => ?_
    have hplain := h.plain c hc
    simp [isStepMark, hplain.ne_dot, hplain.ne_bracket]
  have hargument : argument args name = .ok value := by
    rw [argument, if_neg (by simpa using h.ne_nil), readIndex_plain h]
    dsimp only [bind, Except.bind]
    rw [hv]
    rfl
  rw [valueAt, hall, hargument, List.drop_length]
  rfl

/-- **Filling in.** A template that is written part by part is filled in part by part. -/
theorem expand_write {args : Arguments} {parts : List Part}
    (h : ∀ name, .field name ∈ parts → IsWord name ∧ (args.lookup name).isSome) :
    expand args (parts.flatMap Part.write) = .ok (parts.flatMap (Part.fill args)) := by
  rw [expand, expandDeep]
  induction parts with
  | nil => rfl
  | cons part parts ih =>
    have hrest := ih fun name hn => h name (List.mem_cons_of_mem part hn)
    rw [List.flatMap_cons, List.flatMap_cons]
    cases part with
    | text t =>
      rw [Part.write, pieces_text, concat_literals, hrest]
      rfl
    | field name =>
      obtain ⟨hword, hsome⟩ := h name List.mem_cons_self
      obtain ⟨value, hv⟩ := Option.isSome_iff_exists.mp hsome
      rw [Part.write, pieces_field hword, concat, valueAt_word hword hv, hrest, Part.fill, hv]
      rfl

end Template

end DartComments
