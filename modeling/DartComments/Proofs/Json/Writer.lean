import DartComments.Json.Writer
import DartComments.Proofs.Result
import DartComments.Proofs.Text.Utf8

/-!
# What can be sent

A document can be sent when all its numbers are finite and not too long, so that it has a text, and
that text holds no surrogates, so that it has bytes. Both come from the parts of the document:
`Sendable` goes through arrays and objects down to their strings and numbers.
-/

namespace DartComments

namespace Text

/-- A text of characters only. -/
def SurrogateFree (t : Text) : Prop := ∀ c ∈ t, c.isSurrogate = false

instance (t : Text) : Decidable t.SurrogateFree :=
  inferInstanceAs (Decidable (∀ c ∈ t, c.isSurrogate = false))

@[simp] theorem surrogateFree_nil : SurrogateFree [] := by
  simp [SurrogateFree]

@[simp] theorem surrogateFree_cons {c : CodePoint} {t : Text} :
    SurrogateFree (c :: t) ↔ c.isSurrogate = false ∧ t.SurrogateFree :=
  List.forall_mem_cons

@[simp] theorem surrogateFree_append {t t' : Text} :
    SurrogateFree (t ++ t') ↔ t.SurrogateFree ∧ t'.SurrogateFree :=
  List.forall_mem_append

theorem surrogateFree_flatMap {t : Text} {f : CodePoint → Text} :
    SurrogateFree (t.flatMap f) ↔ ∀ c ∈ t, SurrogateFree (f c) := by
  induction t with
  | nil => simp
  | cons c t ih => simp [ih]

@[simp] theorem surrogateFree_ofChars (cs : List Char) : SurrogateFree (ofChars cs) := by
  intro c hc
  obtain ⟨ch, -, rfl⟩ := List.mem_map.mp hc
  rfl

@[simp] theorem surrogateFree_ofString (s : String) : SurrogateFree (ofString s) :=
  surrogateFree_ofChars s.toList

@[simp] theorem surrogateFree_ofNat (n : Nat) : SurrogateFree (ofNat n) :=
  surrogateFree_ofChars _

@[simp] theorem surrogateFree_ofInt (i : Int) : SurrogateFree (ofInt i) := by
  cases i <;> simp [ofInt, CodePoint.isSurrogate]

theorem surrogateFree_join {sep : Text} (h : sep.SurrogateFree) {parts : List Text} :
    SurrogateFree (join sep parts) ↔ ∀ p ∈ parts, SurrogateFree p := by
  induction parts with
  | nil => simp [join]
  | cons p parts ih =>
    cases parts with
    | nil => simp [join]
    | cons q parts =>
      rw [join_cons_cons, surrogateFree_append, surrogateFree_append, ih,
        List.forall_mem_cons (a := p)]
      simp only [h, and_true]

end Text

/-- A text has UTF-8 bytes when it holds no surrogates. -/
theorem Utf8.encode_ok_iff {t : Text} : (∃ bytes, encode t = .ok bytes) ↔ t.SurrogateFree := by
  rw [encode]
  cases hf : Unencodable.find? .utf8 CodePoint.isSurrogate CodePoint.isSurrogate 0 t with
  | none => exact ⟨fun _ => find?_eq_none.mp hf, fun _ => ⟨_, rfl⟩⟩
  | some e =>
    have hne : ¬ t.SurrogateFree := by
      intro h
      rw [find?_eq_none.mpr h] at hf
      cases hf
    simpa using hne

theorem Double.surrogateFree_layout (ds : List Char) (point : Int) :
    (layout ds point).SurrogateFree := by
  rw [layout]
  split
  · split
    · simp
    · simp
  · dsimp only
    split
    · simp [exponentText, CodePoint.isSurrogate]
    · simp [exponentText, CodePoint.isSurrogate]

theorem Double.surrogateFree_text (d : Double) : d.text.SurrogateFree := by
  cases d with
  | nan => simp [text]
  | infinite negative => cases negative <;> simp [text]
  | finite negative m e =>
    have hsign : (if negative then ("-" : Text) else []).SurrogateFree := by
      cases negative <;> simp
    rw [text]
    split
    · exact Text.surrogateFree_append.mpr ⟨hsign, by simp⟩
    · exact Text.surrogateFree_append.mpr ⟨hsign, surrogateFree_layout _ _⟩

namespace Json

theorem surrogateFree_writePoint (c : CodePoint) :
    (writePoint c).SurrogateFree ↔ c.isSurrogate = false := by
  cases c with
  | char c =>
    refine iff_of_true ?_ rfl
    unfold writePoint
    repeat' split
    all_goals simp [CodePoint.isSurrogate, Text.hex]
  | surrogate i =>
    have hlarge : ¬ 0xD800 + i.val < 0x20 := by omega
    simp [writePoint, CodePoint.toNat, CodePoint.isSurrogate, hlarge]

theorem surrogateFree_writeString (t : Text) : (writeString t).SurrogateFree ↔ t.SurrogateFree := by
  simp only [writeString, Text.surrogateFree_append, Text.surrogateFree_ofString, true_and,
    and_true, Text.surrogateFree_flatMap, surrogateFree_writePoint]
  rfl

/-- A document that can be written, and sent as UTF-8. -/
def Sendable (v : Json) : Prop := ∃ t, v.write = .ok t ∧ t.SurrogateFree

@[simp] theorem sendable_int {i : Int} :
    Sendable (.int i) ↔ (Text.ofNat i.natAbs).length ≤ Number.digitLimit := by
  rw [Sendable, write]
  split
  · next hlong => simpa using hlong
  · next hshort => simpa using hshort

@[simp] theorem sendable_float {d : Double} : Sendable (.float d) ↔ d.isFinite = true := by
  rw [Sendable, write]
  cases d.isFinite with
  | true => simpa using d.surrogateFree_text
  | false => simp

@[simp] theorem sendable_str {t : Text} : Sendable (.str t) ↔ t.SurrogateFree := by
  simp [Sendable, write, surrogateFree_writeString]

/-! ## Items and fields -/

theorem writeItems_eq_ok {items : List Json} {ts : List Text} :
    writeItems items = .ok ts ↔ List.Forall₂ (fun v t => v.write = .ok t) items ts := by
  induction items generalizing ts with
  | nil => simp [writeItems, eq_comm]
  | cons v items ih =>
    rw [writeItems, List.forall₂_cons_left_iff]
    constructor
    · intro h
      obtain ⟨t, ht, h⟩ := bind_eq_ok.mp h
      obtain ⟨ts', hts, h⟩ := bind_eq_ok.mp h
      cases h
      exact ⟨t, ts', ht, ih.mp hts, rfl⟩
    · rintro ⟨t, ts', ht, hts, rfl⟩
      rw [ht, ih.mpr hts]
      rfl

/-- A field is its key, a colon and its value. -/
def FieldText (P : Json → Text → Prop) (f : Text × Json) (t : Text) : Prop :=
  ∃ tv, P f.2 tv ∧ t = writeString f.1 ++ ":" ++ tv

theorem writeFields_eq_ok {fields : List (Text × Json)} {ts : List Text} :
    writeFields fields = .ok ts ↔
      List.Forall₂ (FieldText fun v t => v.write = .ok t) fields ts := by
  induction fields generalizing ts with
  | nil => simp [writeFields, eq_comm]
  | cons f fields ih =>
    obtain ⟨k, v⟩ := f
    rw [writeFields, List.forall₂_cons_left_iff]
    constructor
    · intro h
      obtain ⟨t, ht, h⟩ := bind_eq_ok.mp h
      obtain ⟨ts', hts, h⟩ := bind_eq_ok.mp h
      cases h
      exact ⟨_, ts', ⟨t, ht, rfl⟩, ih.mp hts, rfl⟩
    · rintro ⟨t, ts', ⟨tv, ht, rfl⟩, hts, rfl⟩
      rw [ht, ih.mpr hts]
      rfl

theorem writeItems_sendable {items : List Json} :
    (∃ ts, writeItems items = .ok ts ∧ ∀ t ∈ ts, Text.SurrogateFree t) ↔
      ∀ v ∈ items, v.Sendable := by
  simp only [writeItems_eq_ok, exists_forall₂_iff]
  rfl

theorem writeFields_sendable {fields : List (Text × Json)} :
    (∃ ts, writeFields fields = .ok ts ∧ ∀ t ∈ ts, Text.SurrogateFree t) ↔
      ∀ f ∈ fields, f.1.SurrogateFree ∧ f.2.Sendable := by
  simp only [writeFields_eq_ok, exists_forall₂_iff]
  refine forall₂_congr fun f _ => ?_
  constructor
  · rintro ⟨_, ⟨t, ht, rfl⟩, hfree⟩
    rw [Text.surrogateFree_append, Text.surrogateFree_append, surrogateFree_writeString] at hfree
    exact ⟨hfree.1.1, t, ht, hfree.2⟩
  · rintro ⟨hk, t, ht, hfree⟩
    exact ⟨_, ⟨t, ht, rfl⟩, by simp [surrogateFree_writeString, hk, hfree]⟩

/-- Parts between brackets can be sent when each of them can. -/
theorem exists_enclosed_iff {x : Except Unwritable (List Text)} (left right : String) :
    (∃ t, (x >>= fun ts => pure (left ++ Text.join (Text.ofString ",") ts ++ right)) = .ok t ∧
      t.SurrogateFree) ↔ ∃ ts, x = .ok ts ∧ ∀ t ∈ ts, Text.SurrogateFree t := by
  cases x with
  | error e => simp [bind, Except.bind]
  | ok ts => simp [bind, Except.bind, pure, Except.pure, Text.surrogateFree_join]

@[simp] theorem sendable_arr {items : List Json} :
    Sendable (.arr items) ↔ ∀ v ∈ items, v.Sendable := by
  rw [← writeItems_sendable, Sendable, write]
  exact exists_enclosed_iff "[" "]"

@[simp] theorem sendable_obj {fields : List (Text × Json)} :
    Sendable (.obj fields) ↔ ∀ f ∈ fields, f.1.SurrogateFree ∧ f.2.Sendable := by
  rw [← writeFields_sendable, Sendable, write]
  exact exists_enclosed_iff "\x7b" "\x7d"

end Json

end DartComments
