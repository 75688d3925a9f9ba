import DartComments.Proofs.Json.Encoding
import DartComments.Proofs.Json.Number

/-!
# Documents read back

A document that is written is read back from its text, and from the bytes of that text, provided
that it is `Faithful`: no key comes twice in an object, whole numbers are not longer than what is
read, and floating-point numbers are finite.

    Faithful depth v → v.write = .ok t → read? t = some v            (Faithful.read?_write)
    … → Utf8.encode t = .ok bytes → ofBytes? bytes = some v            (Faithful.ofBytes?_encode)

Of a string each code point is read back from how it is written, whatever follows
(`readString?_writePoint`); of an array and an object each part is, up to what closes it.
-/

namespace DartComments

namespace Json

/-! ## Strings -/

/-- A piece of a string that stands for a code point by itself. -/
inductive Piece.Stands : Piece → CodePoint → Prop
  | plain (c : CodePoint) : Stands (.plain c) c
  | code {c : CodePoint} : c.toNat < 0x20 → Stands (.code c.toNat) c

theorem ofNat_toNat {c : CodePoint} (h : c.toNat < 0x20) : CodePoint.ofNat c.toNat = c := by
  cases c with
  | char c =>
    have hlow : ¬ (0xD800 ≤ c.toNat ∧ c.toNat < 0xE000) := by
      have hc : c.toNat < 0x20 := h
      omega
    show CodePoint.ofNat c.toNat = _
    rw [CodePoint.ofNat, dif_neg hlow, Char.ofNat_toNat]
  | surrogate i =>
    have hsurrogate : 0xD800 + i.val < 0x20 := h
    omega

/-- The number of a control character is no half of a pair. -/
theorem Piece.Stands.joinPieces {p : Piece} {c : CodePoint} (h : p.Stands c) (ps : List Piece) :
    joinPieces (p :: ps) = c :: joinPieces ps := by
  cases h with
  | plain => rfl
  | code hc =>
    have hhigh : Wide.isHigh c.toNat = false := by
      simp only [Wide.isHigh, Bool.and_eq_false_iff, decide_eq_false_iff_not]
      omega
    cases ps with
    | nil =>
      show [CodePoint.ofNat c.toNat] = _
      rw [ofNat_toNat hc]
      rfl
    | cons p ps =>
      cases p with
      | plain c' =>
        show CodePoint.ofNat c.toNat :: _ = _
        rw [ofNat_toNat hc]
      | code lo =>
        rw [Json.joinPieces, hhigh, Bool.false_and, if_neg Bool.false_ne_true, ofNat_toNat hc]

/-- How a code point is written: escaped by one character, by its number, or as itself. -/
inductive PointText (c : CodePoint) : Text → Prop
  | short {e : CodePoint} : shortEscape? e = some c → PointText c [.char '\\', e]
  | code {x y z u : CodePoint} : c.toNat < 0x20 → hex4? x y z u = some c.toNat →
      PointText c [.char '\\', .char 'u', x, y, z, u]
  | plain : c ≠ .char '\x22' → c ≠ .char '\\' → ¬ c.toNat < 0x20 → PointText c [c]

/-- A control character has two zeros and two digits for its number. -/
theorem hex4?_hex : ∀ n < 0x20, ∃ x y z u,
    Text.hex 4 n = [x, y, z, u] ∧ hex4? x y z u = some n := by
  have hdigits : ∀ n < 0x20,
      Text.hex 4 n = Text.ofChars ['0', '0', Nat.digitChar (n / 16), Nat.digitChar (n % 16)] ∧
        hex4? (.char '0') (.char '0') (.char (Nat.digitChar (n / 16)))
          (.char (Nat.digitChar (n % 16))) = some n := by
    decide +kernel
  intro n hn
  exact ⟨_, _, _, _, hdigits n hn⟩

theorem pointText_writePoint (c : CodePoint) : PointText c (writePoint c) := by
  unfold writePoint
  split_ifs with hquote hslash hfeed hreturn htab hback hform hcontrol
  · exact .short (by rw [hquote]; rfl)
  · exact .short (by rw [hslash]; rfl)
  · exact .short (by rw [hfeed]; rfl)
  · exact .short (by rw [hreturn]; rfl)
  · exact .short (by rw [htab]; rfl)
  · exact .short (by rw [hback]; rfl)
  · exact .short (by rw [hform]; rfl)
  · obtain ⟨x, y, z, u, hhex, hvalue⟩ := hex4?_hex c.toNat hcontrol
    rw [hhex]
    exact .code hcontrol hvalue
  · exact .plain hquote hslash hcontrol

theorem readPieces?_short {e c : CodePoint} (h : shortEscape? e = some c) (rest : Text) :
    readPieces? (.char '\\' :: e :: rest) = (readPieces? rest).map (consPiece (.plain c)) := by
  rw [readPieces?.eq_def]
  split
  · next heq => cases heq
  · next heq =>
    cases heq
    cases h
  · next heq =>
    cases heq
    rw [h]
  · next hnone heq =>
    cases heq
    exact absurd rfl (hnone e rest rfl)

theorem readPieces?_plain {c : CodePoint} (hquote : c ≠ .char '\x22') (hslash : c ≠ .char '\\')
    (hcontrol : ¬ c.toNat < 0x20) (rest : Text) :
    readPieces? (c :: rest) = (readPieces? rest).map (consPiece (.plain c)) := by
  rw [readPieces?.eq_def]
  split
  · next heq => cases heq
  · next heq =>
    cases heq
    exact absurd rfl hslash
  · next heq =>
    cases heq
    exact absurd rfl hslash
  · next heq =>
    cases heq
    simp [hquote, hslash, hcontrol]

/-- A code point is one piece, however it is written. -/
theorem PointText.readPieces? {c : CodePoint} {t : Text} (h : PointText c t) (rest : Text) :
    ∃ p : Piece, p.Stands c ∧
      readPieces? (t ++ rest) = (readPieces? rest).map (consPiece p) := by
  cases h with
  | short he => exact ⟨.plain c, .plain c, readPieces?_short he rest⟩
  | code hcontrol hvalue =>
    refine ⟨.code c.toNat, .code hcontrol, ?_⟩
    show Json.readPieces? (.char '\\' :: .char 'u' :: _ :: _ :: _ :: _ :: rest) = _
    rw [Json.readPieces?, hvalue]
  | plain hquote hslash hcontrol =>
    exact ⟨.plain c, .plain c, readPieces?_plain hquote hslash hcontrol rest⟩

theorem readString?_writePoint (c : CodePoint) (rest : Text) : readString? (writePoint c ++ rest) =
    (readString? rest).map fun r => (c :: r.1, r.2) := by
  obtain ⟨p, hstands, hread⟩ := (pointText_writePoint c).readPieces? rest
  rw [readString?, readString?, hread, Option.map_map, Option.map_map]
  congr 1
  funext r
  show (joinPieces (p :: r.1), r.2) = _
  rw [hstands.joinPieces]
  rfl

/-- **A string is read back from how it is written**, whatever code points it holds. -/
theorem readString?_write (t rest : Text) :
    readString? (t.flatMap writePoint ++ .char '\x22' :: rest) = some (t, rest) := by
  induction t with
  | nil => rfl
  | cons c t ih =>
    rw [List.flatMap_cons, List.append_assoc, readString?_writePoint, ih]
    rfl

theorem writeString_append (t rest : Text) : writeString t ++ rest =
    .char '\x22' :: (t.flatMap writePoint ++ .char '\x22' :: rest) := by
  show .char '\x22' :: ((t.flatMap writePoint ++ [.char '\x22']) ++ rest) = _
  rw [List.append_assoc]
  rfl

/-! ## Faithful documents -/

/-- A document that its text gives back, with at most so many brackets open at once. -/
inductive Faithful : Nat → Json → Prop
  | null {depth : Nat} : Faithful depth .null
  | bool {depth : Nat} (b : Bool) : Faithful depth (.bool b)
  | int {depth : Nat} {i : Int} : i.natAbs < 10 ^ Number.digitLimit → Faithful depth (.int i)
  | float {depth m : Nat} {negative : Bool} {e : Int} : Double.Fits m e →
      Faithful depth (.float (.finite negative m e))
  | str {depth : Nat} (t : Text) : Faithful depth (.str t)
  | arr {depth : Nat} {items : List Json} : (∀ v ∈ items, Faithful depth v) →
      Faithful (depth + 1) (.arr items)
  | obj {depth : Nat} {fields : List (Text × Json)} : (∀ f ∈ fields, Faithful depth f.2) →
      (fields.map Prod.fst).Nodup → Faithful (depth + 1) (.obj fields)

/-- Parts joined with commas. -/
def joined (ts : List Text) : Text := Text.join (Text.ofString ",") ts

theorem joined_cons_cons (t t' : Text) (ts : List Text) :
    joined (t :: t' :: ts) = t ++ .char ',' :: joined (t' :: ts) := by
  rw [joined, Text.join_cons_cons, List.append_assoc]
  rfl

theorem joined_singleton (t : Text) : joined [t] = t := by
  simp [joined, Text.join]

/-- What holds of the texts of all parts goes up to the text of a faithful document. -/
theorem Faithful.write_induction {P : Nat → Json → Text → Prop}
    (null : ∀ depth, P depth .null "null")
    (bool : ∀ depth b, P depth (.bool b) (if b then "true" else "false"))
    (int : ∀ depth i, i.natAbs < 10 ^ Number.digitLimit → P depth (.int i) (Text.ofInt i))
    (float : ∀ depth negative m e, Double.Fits m e →
      P depth (.float (.finite negative m e)) (Double.finite negative m e).text)
    (str : ∀ depth t, P depth (.str t) (writeString t))
    (arr : ∀ depth items ts, List.Forall₂ (P depth) items ts →
      P (depth + 1) (.arr items) ([.char '['] ++ joined ts ++ [.char ']']))
    (obj : ∀ depth fields ts, List.Forall₂ (FieldText (P depth)) fields ts →
      (fields.map Prod.fst).Nodup →
      P (depth + 1) (.obj fields) ([.char '\x7b'] ++ joined ts ++ [.char '\x7d']))
    {depth : Nat} {v : Json} (h : Faithful depth v) {t : Text} (hwrite : v.write = .ok t) :
    P depth v t := by
  induction h generalizing t with
  | @null depth =>
    cases hwrite
    exact null depth
  | @bool depth b =>
    rw [write] at hwrite
    cases hwrite
    exact bool depth b
  | @int depth i hi =>
    rw [write] at hwrite
    split_ifs at hwrite
    cases hwrite
    exact int depth i hi
  | @float depth m negative e hfits =>
    rw [write] at hwrite
    cases hwrite
    exact float depth negative m e hfits
  | @str depth t =>
    rw [write] at hwrite
    cases hwrite
    exact str depth t
  | @arr depth items _ ih =>
    rw [write] at hwrite
    obtain ⟨ts, hts, hwrite⟩ := bind_eq_ok.mp hwrite
    cases hwrite
    have hboth := (List.forall₂_and_left items ts).mpr ⟨@ih, writeItems_eq_ok.mp hts⟩
    exact arr depth items ts (hboth.imp fun v t h => h.1 h.2)
  | @obj depth fields _ hkeys ih =>
    rw [write] at hwrite
    obtain ⟨ts, hts, hwrite⟩ := bind_eq_ok.mp hwrite
    cases hwrite
    have hboth := (List.forall₂_and_left fields ts).mpr ⟨@ih, writeFields_eq_ok.mp hts⟩
    refine obj depth fields ts (hboth.imp ?_) hkeys
    rintro f t ⟨hf, tv, htv, rfl⟩
    exact ⟨tv, hf htv, rfl⟩

/-- What holds of words, numbers and strings, and goes through brackets, holds of the text of a
faithful document. -/
theorem Faithful.text_induction {P : Nat → Text → Prop}
    (unmarked : ∀ depth t, Unmarked t → P depth t)
    (string : ∀ depth t, P depth (writeString t))
    (append : ∀ depth t t', P depth t → P depth t' → P depth (t ++ t'))
    (bracket : ∀ depth t, P depth t → P (depth + 1) ([.char '['] ++ t ++ [.char ']']))
    (brace : ∀ depth t, P depth t → P (depth + 1) ([.char '\x7b'] ++ t ++ [.char '\x7d']))
    {depth : Nat} {v : Json} (h : Faithful depth v) {t : Text} (hwrite : v.write = .ok t) :
    P depth t := by
  have hjoined : ∀ {α : Type} {R : α → Text → Prop} {as : List α} {ts : List Text} {depth : Nat},
      List.Forall₂ R as ts → (∀ a t, R a t → P depth t) → P depth (joined ts) := by
    intro α R as ts depth hts hR
    induction hts with
    | nil => exact unmarked _ _ (by decide)
    | @cons a t as ts hat _ ih =>
      cases ts with
      | nil =>
        rw [joined_singleton]
        exact hR a t hat
      | cons t' ts =>
        rw [joined_cons_cons]
        exact append _ _ _ (hR a t hat) (append _ [.char ','] _ (unmarked _ _ (by decide)) ih)
  refine Faithful.write_induction (P := fun depth _ => P depth) ?_ ?_ ?_ ?_ ?_ ?_ ?_ h hwrite
  · intro depth
    exact unmarked depth _ (by decide)
  · intro depth b
    exact unmarked depth _ (by cases b <;> decide)
  · intro depth i _
    exact unmarked depth _ (unmarked_ofInt i)
  · intro depth negative m e hfits
    exact unmarked depth _ (unmarked_text negative hfits)
  · intro depth t
    exact string depth t
  · intro depth items ts hts
    exact bracket depth _ (hjoined hts fun _ _ ht => ht)
  · intro depth fields ts hts _
    refine brace depth _ (hjoined hts ?_)
    rintro f _ ⟨tv, htv, rfl⟩
    exact append _ _ _ (append _ _ _ (string depth f.1) (unmarked depth _ (by decide))) htv

/-! ## Values -/

/-- An ASCII character that is neither a blank nor a bracket that closes. -/
def Starts (c : Char) : Prop :=
  isGap (.char c) = false ∧ c ≠ ']' ∧ c ≠ '\x7d' ∧ c.toNat < 0x80

instance (c : Char) : Decidable (Starts c) :=
  inferInstanceAs (Decidable (isGap (.char c) = false ∧ c ≠ ']' ∧ c ≠ '\x7d' ∧ c.toNat < 0x80))

/-- A text that starts as a value does. -/
def Opens (t : Text) : Prop := ∃ c t', t = .char c :: t' ∧ Starts c

theorem Opens.append {t : Text} (h : Opens t) (rest : Text) : Opens (t ++ rest) := by
  obtain ⟨c, t', rfl, hstart⟩ := h
  exact ⟨c, t' ++ rest, rfl, hstart⟩

theorem skipGap_cons {c : CodePoint} (h : isGap c = false) (rest : Text) :
    skipGap (c :: rest) = c :: rest := by
  rw [skipGap, List.dropWhile_cons, h]
  rfl

theorem Opens.skipGap {t : Text} (h : Opens t) : skipGap t = t := by
  obtain ⟨c, t', rfl, hgap, -⟩ := h
  exact skipGap_cons hgap t'

theorem Numeric.opens {t : Text} (h : Numeric t) : Opens t := by
  obtain ⟨negative, c, rest, hc, rfl⟩ := h
  cases negative with
  | true => exact ⟨'-', _, rfl, by decide⟩
  | false =>
    have hrange := Number.toNat_of_isDigit hc
    have hne : ∀ w : Char, w.isDigit = false → c ≠ w := by
      rintro w hw rfl
      rw [hc] at hw
      cases hw
    refine ⟨c, rest, rfl, ?_, hne ']' rfl, hne '\x7d' rfl, by omega⟩
    simp [isGap, hne ' ' rfl, hne '\t' rfl, hne '\n' rfl, hne '\r' rfl]

/-- What starts like a number is read as a number. -/
theorem Numeric.readValue? {t : Text} (h : Numeric t) (fuel : Nat) :
    readValue? (fuel + 1) t = readNumber? t := by
  rw [← h.readScalar?]
  obtain ⟨negative, c, rest, hc, rfl⟩ := h
  cases negative with
  | true => rfl
  | false =>
    show Json.readValue? (fuel + 1) (.char c :: rest) = Json.readScalar? (.char c :: rest)
    -- The rule for numbers comes last: a digit is none of the three marks before it.
    rw [Json.readValue?]
    all_goals
      rintro rest' heq
      cases heq
      cases hc

/-- A value is read back from a text, whatever closes it. -/
structure ReadsBack (v : Json) (t : Text) : Prop where
  opens : Opens t
  read {fuel : Nat} {rest : Text} : 2 * t.length ≤ fuel → Closes rest →
    readValue? fuel (t ++ rest) = some (v, rest)

theorem Opens.pos {t : Text} (h : Opens t) : 0 < t.length := by
  obtain ⟨c, t', rfl, -⟩ := h
  exact Nat.succ_pos _

/-- A value is read back when it is with fuel left over. -/
theorem ReadsBack.of_succ {v : Json} {t : Text} (hopens : Opens t)
    (hread : ∀ {fuel : Nat} {rest : Text}, 2 * t.length ≤ fuel + 1 → Closes rest →
      readValue? (fuel + 1) (t ++ rest) = some (v, rest)) : ReadsBack v t := by
  refine ⟨hopens, fun {fuel rest} hfuel hrest => ?_⟩
  have hpos := hopens.pos
  cases fuel with
  | zero => omega
  | succ fuel => exact hread hfuel hrest

theorem opens_writeString (t : Text) : Opens (writeString t) :=
  ⟨'\x22', t.flatMap writePoint ++ "\"", rfl, by decide⟩

theorem readsBack_str (t : Text) : ReadsBack (.str t) (writeString t) := by
  refine .of_succ (opens_writeString t) fun {fuel rest} _ _ => ?_
  rw [writeString_append]
  show (readString? (t.flatMap writePoint ++ .char '\x22' :: rest)).map _ = _
  rw [readString?_write]
  rfl

theorem readsBack_int {i : Int} (h : i.natAbs < 10 ^ Number.digitLimit) :
    ReadsBack (.int i) (Text.ofInt i) := by
  have hnumeric := numeric_ofInt i []
  rw [List.append_nil] at hnumeric
  refine .of_succ hnumeric.opens fun {fuel rest} _ hrest => ?_
  rw [(numeric_ofInt i rest).readValue?, readNumber?_ofInt hrest h]

theorem readsBack_float {negative : Bool} {m : Nat} {e : Int} (h : Double.Fits m e) :
    ReadsBack (.float (.finite negative m e)) (Double.finite negative m e).text := by
  have hnumeric := numeric_text negative h []
  rw [List.append_nil] at hnumeric
  refine .of_succ hnumeric.opens fun {fuel rest} _ hrest => ?_
  rw [(numeric_text negative h rest).readValue?, readNumber?_text h hrest]

/-! ## Arrays and objects -/

theorem closes_cons {c : CodePoint} (h : c = .char ',' ∨ c = .char ']' ∨ c = .char '\x7d')
    (rest : Text) : Closes (c :: rest) := by
  intro c' hc
  cases hc
  exact h

theorem opens_joined {t : Text} (h : Opens t) (ts : List Text) : Opens (joined (t :: ts)) := by
  cases ts with
  | nil => rwa [joined_singleton]
  | cons t' ts =>
    rw [joined_cons_cons]
    exact h.append _

/-- Items are read back up to the bracket. -/
theorem readItems?_joined {v : Json} {vs : List Json} {t : Text} {ts : List Text}
    (hv : ReadsBack v t) (hvs : List.Forall₂ ReadsBack vs ts) {fuel : Nat}
    (hfuel : 2 * (joined (t :: ts)).length + 1 ≤ fuel) (rest : Text) :
    readItems? fuel (joined (t :: ts) ++ .char ']' :: rest) = some (v :: vs, rest) := by
  induction hvs generalizing v t fuel with
  | nil =>
    rw [joined_singleton] at hfuel ⊢
    obtain ⟨fuel, rfl⟩ : ∃ f, fuel = f + 1 := ⟨fuel - 1, by omega⟩
    rw [readItems?, hv.read (by omega) (closes_cons (by simp) rest)]
    rfl
  | @cons v' t' vs ts hv' hvs ih =>
    have hlength : (joined (t :: t' :: ts)).length = t.length + 1 + (joined (t' :: ts)).length := by
      rw [joined_cons_cons, List.length_append, List.length_cons]
      omega
    obtain ⟨fuel, rfl⟩ : ∃ f, fuel = f + 1 := ⟨fuel - 1, by omega⟩
    have hopens : Opens (joined (t' :: ts) ++ .char ']' :: rest) :=
      (opens_joined hv'.opens ts).append _
    rw [joined_cons_cons, List.append_assoc, List.cons_append, readItems?,
      hv.read (by omega) (closes_cons (by simp) _)]
    show (readItems? fuel (skipGap (joined (t' :: ts) ++ .char ']' :: rest))).bind _ = _
    rw [hopens.skipGap, ih hv' (by omega)]
    rfl

theorem bracketed_append (a b : CodePoint) (t rest : Text) :
    [a] ++ t ++ [b] ++ rest = a :: (t ++ b :: rest) := by
  simp

theorem length_bracketed (a b : CodePoint) (t : Text) :
    ([a] ++ t ++ [b]).length = t.length + 2 := by
  simp

theorem readsBack_arr {items : List Json} {ts : List Text} (h : List.Forall₂ ReadsBack items ts) :
    ReadsBack (.arr items) ([.char '['] ++ joined ts ++ [.char ']']) := by
  refine .of_succ ⟨'[', joined ts ++ [.char ']'], rfl, by decide⟩
    fun {fuel rest} hfuel _ => ?_
  rw [length_bracketed] at hfuel
  rw [bracketed_append]
  cases h with
  | nil => rfl
  | @cons v t items ts hv hitems =>
    have hread : readItems? fuel (joined (t :: ts) ++ .char ']' :: rest) =
        some (v :: items, rest) := readItems?_joined hv hitems (by omega) rest
    obtain ⟨c, t', heq, hgap, hclose, -⟩ := (opens_joined hv.opens ts).append (.char ']' :: rest)
    rw [heq] at hread ⊢
    rw [readValue?, skipGap_cons hgap]
    split
    · next heq =>
      cases heq
      exact absurd rfl hclose
    · rw [hread]
      rfl

/-- A key that is new comes last. -/
theorem setField_of_nodup {before after : List (Text × Json)} {f : Text × Json}
    (h : ((before ++ f :: after).map Prod.fst).Nodup) :
    setField f.1 f.2 before = before ++ [f] := by
  induction before with
  | nil => rfl
  | cons g before ih =>
    obtain ⟨k, w⟩ := g
    rw [List.cons_append, List.map_cons, List.nodup_cons] at h
    have hne : k ≠ f.1 := by
      intro heq
      exact h.1 (List.mem_map.mpr ⟨f, by simp, heq.symm⟩)
    rw [setField, if_neg hne, ih h.2]
    rfl

theorem opens_fieldText {f : Text × Json} {t : Text} (h : FieldText ReadsBack f t) : Opens t := by
  obtain ⟨tv, -, rfl⟩ := h
  rw [List.append_assoc]
  exact (opens_writeString f.1).append _

/-- One field is read back and added to those before it. -/
theorem readFields?_field {f : Text × Json} {t : Text} (h : FieldText ReadsBack f t) {fuel : Nat}
    (hfuel : 2 * t.length ≤ fuel) (fields : List (Text × Json)) {rest : Text}
    (hrest : Closes rest) :
    readFields? (fuel + 1) fields (t ++ rest) =
      match skipGap rest with
      | .char ',' :: rest => readFields? fuel (setField f.1 f.2 fields) (skipGap rest)
      | .char '\x7d' :: rest => some (setField f.1 f.2 fields, rest)
      | _ => none := by
  obtain ⟨tv, hv, rfl⟩ := h
  have hlength : tv.length ≤ (writeString f.1 ++ Text.ofString ":" ++ tv).length := by
    rw [List.length_append]
    omega
  have htext : writeString f.1 ++ Text.ofString ":" ++ tv ++ rest =
      .char '\x22' :: (f.1.flatMap writePoint ++ .char '\x22' :: .char ':' :: (tv ++ rest)) := by
    rw [List.append_assoc, List.append_assoc, writeString_append]
    rfl
  have hopens := hv.opens.append rest
  have hread : readValue? fuel (tv ++ rest) = some (f.2, rest) := hv.read (by omega) hrest
  rw [htext, readFields?, readString?_write]
  show ((readValue? fuel (skipGap (tv ++ rest))).bind _) = _
  rw [hopens.skipGap, hread]
  rfl

/-- Fields are read back up to the brace, after those before them. -/
theorem readFields?_joined {f : Text × Json} {fs : List (Text × Json)} {t : Text} {ts : List Text}
    (hf : FieldText ReadsBack f t) (hfs : List.Forall₂ (FieldText ReadsBack) fs ts)
    {before : List (Text × Json)} (hkeys : ((before ++ f :: fs).map Prod.fst).Nodup) {fuel : Nat}
    (hfuel : 2 * (joined (t :: ts)).length + 1 ≤ fuel) (rest : Text) :
    readFields? fuel before (joined (t :: ts) ++ .char '\x7d' :: rest) =
      some (before ++ f :: fs, rest) := by
  induction hfs generalizing f t before fuel with
  | nil =>
    obtain ⟨fuel, rfl⟩ : ∃ n, fuel = n + 1 := ⟨fuel - 1, by omega⟩
    rw [joined_singleton] at hfuel ⊢
    rw [readFields?_field hf (by omega) before (closes_cons (by simp) rest),
      setField_of_nodup hkeys]
    rfl
  | @cons f' t' fs ts hf' hfs ih =>
    obtain ⟨fuel, rfl⟩ : ∃ n, fuel = n + 1 := ⟨fuel - 1, by omega⟩
    have hlength : (joined (t :: t' :: ts)).length = t.length + 1 + (joined (t' :: ts)).length := by
      rw [joined_cons_cons, List.length_append, List.length_cons]
      omega
    have hopens : Opens (joined (t' :: ts) ++ .char '\x7d' :: rest) :=
      (opens_joined (opens_fieldText hf') ts).append _
    rw [joined_cons_cons, List.append_assoc, List.cons_append,
      readFields?_field hf (by omega) before (closes_cons (by simp) _), setField_of_nodup hkeys]
    show readFields? fuel (before ++ [f]) (skipGap (joined (t' :: ts) ++ .char '\x7d' :: rest)) = _
    have happend : before ++ f :: f' :: fs = before ++ [f] ++ f' :: fs := by
      rw [List.append_assoc]
      rfl
    rw [happend] at hkeys ⊢
    rw [hopens.skipGap, ih hf' hkeys (by omega)]

theorem readsBack_obj {fields : List (Text × Json)} {ts : List Text}
    (h : List.Forall₂ (FieldText ReadsBack) fields ts) (hkeys : (fields.map Prod.fst).Nodup) :
    ReadsBack (.obj fields) ([.char '\x7b'] ++ joined ts ++ [.char '\x7d']) := by
  refine .of_succ ⟨'\x7b', joined ts ++ [.char '\x7d'], rfl, by decide⟩
    fun {fuel rest} hfuel _ => ?_
  rw [length_bracketed] at hfuel
  rw [bracketed_append]
  cases h with
  | nil => rfl
  | @cons f t fields ts hf hfields =>
    have hread : readFields? fuel [] (joined (t :: ts) ++ .char '\x7d' :: rest) =
        some (f :: fields, rest) := readFields?_joined hf hfields hkeys (by omega) rest
    obtain ⟨c, t', heq, hgap, -, hclose, -⟩ :=
      (opens_joined (opens_fieldText hf) ts).append (.char '\x7d' :: rest)
    rw [heq] at hread ⊢
    rw [readValue?, skipGap_cons hgap]
    split
    · next heq =>
      cases heq
      exact absurd rfl hclose
    · rw [hread]
      rfl

/-- A faithful document is read back from its text, whatever closes it. -/
theorem Faithful.readsBack {depth : Nat} {v : Json} (h : Faithful depth v) {t : Text}
    (hwrite : v.write = .ok t) : ReadsBack v t := by
  refine Faithful.write_induction (P := fun _ => ReadsBack) ?_ ?_ ?_ ?_ ?_ ?_ ?_ h hwrite
  · intro _
    exact .of_succ ⟨'n', _, rfl, by decide⟩ fun _ _ => rfl
  · intro _ b
    cases b with
    | true => exact .of_succ ⟨'t', _, rfl, by decide⟩ fun _ _ => rfl
    | false => exact .of_succ ⟨'f', _, rfl, by decide⟩ fun _ _ => rfl
  · intro _ i hi
    exact readsBack_int hi
  · intro _ negative m e hfits
    exact readsBack_float hfits
  · intro _ t
    exact readsBack_str t
  · intro _ items ts hitems
    exact readsBack_arr hitems
  · intro _ fields ts hfields hkeys
    exact readsBack_obj hfields hkeys

/-- **A faithful document is read back from its text.** -/
theorem Faithful.read?_write {depth : Nat} {v : Json} (h : Faithful depth v) {t : Text}
    (hwrite : v.write = .ok t) : read? t = some v := by
  have hback := h.readsBack hwrite
  have hread : readValue? (2 * t.length + 2) (t ++ []) = some (v, []) :=
    hback.read (by omega) closes_nil
  rw [List.append_nil] at hread
  rw [read?, hback.opens.skipGap, hread]
  rfl

/-! ## Bytes -/

/-- Digits of a number in an escape are neither NUL nor one of the marks of a string. -/
theorem plain_of_hex4? {x y z u : CodePoint} {n : Nat} (h : hex4? x y z u = some n) :
    ∀ c ∈ [x, y, z, u], 0 < c.toNat ∧ c ≠ .char '\x22' ∧ c ≠ .char '\\' := by
  have hdigit : ∀ {c : CodePoint} {d : Nat}, CodePoint.hexDigit? c = some d →
      0 < c.toNat ∧ c ≠ .char '\x22' ∧ c ≠ .char '\\' := by
    intro c d hc
    refine ⟨Nat.pos_of_ne_zero fun hzero => ?_, ?_, ?_⟩
    · have hnul : CodePoint.ofNat c.toNat = c := ofNat_toNat (by omega)
      rw [hzero] at hnul
      subst hnul
      cases hc
    · rintro rfl
      cases hc
    · rintro rfl
      cases hc
  obtain ⟨a, ha, h⟩ := Option.bind_eq_some_iff.mp h
  obtain ⟨b, hb, h⟩ := Option.bind_eq_some_iff.mp h
  obtain ⟨c, hc, h⟩ := Option.bind_eq_some_iff.mp h
  obtain ⟨d, hd, h⟩ := Option.bind_eq_some_iff.mp h
  simp only [List.mem_cons, List.not_mem_nil, or_false, forall_eq_or_imp, forall_eq]
  exact ⟨hdigit ha, hdigit hb, hdigit hc, hdigit hd⟩

theorem pos_of_shortEscape? {e c : CodePoint} (h : shortEscape? e = some c) : 0 < e.toNat := by
  unfold shortEscape? at h
  split at h
  case h_9 => cases h
  all_goals decide

/-- A code point is written without NUL, which has an escape. -/
theorem PointText.pos_of_mem {c : CodePoint} {t : Text} (h : PointText c t) :
    ∀ c' ∈ t, 0 < c'.toNat := by
  cases h with
  | short he =>
    have hpos := pos_of_shortEscape? he
    exact List.forall_mem_cons.mpr ⟨by decide, List.forall_mem_singleton.mpr hpos⟩
  | code _ hvalue =>
    refine List.forall_mem_cons.mpr ⟨by decide, List.forall_mem_cons.mpr ⟨by decide, ?_⟩⟩
    intro c' hc'
    exact (plain_of_hex4? hvalue c' hc').1
  | plain _ _ hcontrol => exact List.forall_mem_singleton.mpr (by omega)

theorem Faithful.pos_of_mem {depth : Nat} {v : Json} (h : Faithful depth v) {t : Text}
    (hwrite : v.write = .ok t) : ∀ c ∈ t, 0 < c.toNat := by
  refine Faithful.text_induction (P := fun _ t => ∀ c ∈ t, 0 < c.toNat) ?_ ?_ ?_ ?_ ?_ h hwrite
  · intro _ t ht c hc
    exact (ht c hc).1
  · intro _ t
    refine List.forall_mem_append.mpr ⟨List.forall_mem_append.mpr ⟨by decide, ?_⟩, by decide⟩
    intro c' hc'
    obtain ⟨c, -, hc'⟩ := List.mem_flatMap.mp hc'
    exact (pointText_writePoint c).pos_of_mem c' hc'
  · intro _ t t' ht ht'
    exact List.forall_mem_append.mpr ⟨ht, ht'⟩
  · intro _ t ht
    exact List.forall_mem_append.mpr ⟨List.forall_mem_append.mpr ⟨by decide, ht⟩, by decide⟩
  · intro _ t ht
    exact List.forall_mem_append.mpr ⟨List.forall_mem_append.mpr ⟨by decide, ht⟩, by decide⟩

theorem Opens.head?_isAscii {t : Text} (h : Opens t) :
    ∀ c, t.head? = some c → c.isAscii = true := by
  obtain ⟨c, t', rfl, -, -, -, hascii⟩ := h
  intro c' hc'
  cases hc'
  exact decide_eq_true hascii

theorem Faithful.decode?_encode {depth : Nat} {v : Json} (h : Faithful depth v) {t : Text}
    (hwrite : v.write = .ok t) {bytes : Bytes} (hbytes : Utf8.encode t = .ok bytes) :
    decode? bytes = some t :=
  decode?_of_encode hbytes (h.pos_of_mem hwrite) (h.readsBack hwrite).opens.head?_isAscii

/-- **A faithful document is read back from its bytes.** -/
theorem Faithful.ofBytes?_encode {depth : Nat} {v : Json} (h : Faithful depth v) {t : Text}
    (hwrite : v.write = .ok t) {bytes : Bytes} (hbytes : Utf8.encode t = .ok bytes) :
    ofBytes? bytes = some v := by
  rw [ofBytes?, h.decode?_encode hwrite hbytes]
  exact h.read?_write hwrite

end Json

end DartComments
