import DartComments.Comment.Insertion
import DartComments.Proofs.Run
import DartComments.Proofs.Text.Utf8

/-!
# What inserting comes to

`splice` says what is written, with no pulling of comments: the source with pieces put in at given
places. `copyFrom` is followed one declaration at a time, whatever its comments are pulled from;
when each pull gives a comment and each range lies in the source, the result is the splice of these
comments, each with its line ending, at the starts of the declarations. What is spliced into a text
is spliced into its bytes when the text is written (`encodeEscaped_splice`).
-/

namespace DartComments

namespace Insertion

/-- The source from `cursor` on with pieces put in: before each piece, what lies between the place
before and its own. -/
def splice {α : Type} (source : List α) : Nat → List (Nat × List α) → List α
  | cursor, [] => source.drop cursor
  | cursor, (place, piece) :: rest =>
    (source.take place).drop cursor ++ piece ++ splice source place rest

/-- The pieces that comments make: each with a line ending, at the start of its declaration. -/
def pieces (ending : Text) (ds : List Declaration) (cs : List Text) : List (Nat × Text) :=
  List.zipWith (fun d c => (d.range.start, c ++ ending)) ds cs

variable {σ : Type}

theorem exec_copyFrom_outside {source ending : Text} {next : Run σ (Option Text)} {cursor : Nat}
    {d : Declaration} {ds : List Declaration} {s : σ} (h : source.length < d.range.stop) :
    Action.exec (copyFrom source ending next cursor (d :: ds)) s =
      (.error (.outsideSource d.range d.name source.length), s) := by
  rw [copyFrom, if_pos h]
  rfl

/-- A failure of a pull is the failure of the whole. -/
theorem exec_copyFrom_error {source ending : Text} {next : Run σ (Option Text)} {cursor : Nat}
    {d : Declaration} {ds : List Declaration} {s t : σ} {e : Failure}
    (h : d.range.stop ≤ source.length) (hn : Action.exec next s = (.error e, t)) :
    Action.exec (copyFrom source ending next cursor (d :: ds)) s = (.error e, t) := by
  rw [copyFrom, if_neg (by omega)]
  exact Action.exec_bind_error hn _

theorem exec_copyFrom_none {source ending : Text} {next : Run σ (Option Text)} {cursor : Nat}
    {d : Declaration} {ds : List Declaration} {s t : σ} (h : d.range.stop ≤ source.length)
    (hn : Action.exec next s = (.ok none, t)) :
    Action.exec (copyFrom source ending next cursor (d :: ds)) s =
      (.error (.noComment d.name), t) := by
  rw [copyFrom, if_neg (by omega)]
  exact Action.exec_bind_ok hn _

/-- After a pull that gives a comment the rest follows, and what it gives stands behind. -/
theorem exec_copyFrom_some {source ending : Text} {next : Run σ (Option Text)} {cursor : Nat}
    {d : Declaration} {ds : List Declaration} {s t : σ} {c : Text}
    (h : d.range.stop ≤ source.length) (hn : Action.exec next s = (.ok (some c), t)) :
    Action.exec (copyFrom source ending next cursor (d :: ds)) s =
      ((Action.exec (copyFrom source ending next d.range.start ds) t).1.map fun rest =>
          source.slice cursor d.range.start ++ c ++ ending ++ rest,
        (Action.exec (copyFrom source ending next d.range.start ds) t).2) := by
  rw [copyFrom, if_neg (by omega)]
  refine (Action.exec_bind_ok hn _).trans ?_
  show Action.exec (copyFrom source ending next d.range.start ds >>= _) t = _
  rw [Action.exec_bind]
  generalize Action.exec (copyFrom source ending next d.range.start ds) t = r
  obtain ⟨r, t'⟩ := r
  cases r <;> rfl

theorem splice_cons_pieces (source ending : Text) (cursor : Nat) (d : Declaration)
    (ds : List Declaration) (c : Text) (cs : List Text) :
    splice source cursor (pieces ending (d :: ds) (c :: cs)) =
      source.slice cursor d.range.start ++ c ++ ending ++
        splice source d.range.start (pieces ending ds cs) := by
  show (source.take d.range.start).drop cursor ++ (c ++ ending) ++ _ = _
  rw [← List.append_assoc]
  rfl

/-- Putting pieces in takes nothing away. -/
theorem width_drop_add_le (source : Text) (cursor : Nat) (ps : List (Nat × Text)) :
    Utf8.width (source.drop cursor) + Utf8.width (ps.flatMap Prod.snd) ≤
      Utf8.width (splice source cursor ps) := by
  induction ps generalizing cursor with
  | nil => exact Nat.le_refl _
  | cons p ps ih =>
    obtain ⟨place, piece⟩ := p
    have hgap : Utf8.width (source.drop cursor) ≤
        Utf8.width ((source.take place).drop cursor) + Utf8.width (source.drop place) := by
      have htail := Utf8.width_drop_le (source.drop place) (cursor - (source.take place).length)
      rw [← List.take_append_drop place source, List.drop_append, Utf8.width_append,
        List.take_append_drop]
      omega
    have hrest := ih place
    rw [splice, Utf8.width_append, Utf8.width_append, List.flatMap_cons, Utf8.width_append]
    dsimp only
    omega

/-- Nothing stands in the result but the source and the pieces. -/
theorem mem_of_mem_splice {α : Type} {source : List α} {cursor : Nat} {ps : List (Nat × List α)}
    {a : α} (h : a ∈ splice source cursor ps) : a ∈ source ∨ ∃ p ∈ ps, a ∈ p.2 := by
  induction ps generalizing cursor with
  | nil => exact .inl (List.mem_of_mem_drop h)
  | cons p ps ih =>
    obtain ⟨place, piece⟩ := p
    rw [splice, List.append_assoc, List.mem_append, List.mem_append] at h
    rcases h with hgap | hpiece | hrest
    · exact .inl (List.mem_of_mem_take (List.mem_of_mem_drop hgap))
    · exact .inr ⟨_, List.mem_cons_self, hpiece⟩
    · rcases ih hrest with hs | ⟨p, hp, ha⟩
      · exact .inl hs
      · exact .inr ⟨p, List.mem_cons_of_mem _ hp, ha⟩

theorem exists_of_mem_pieces {ending : Text} {ds : List Declaration} {cs : List Text}
    {p : Nat × Text} (h : p ∈ pieces ending ds cs) : ∃ t ∈ cs, p.2 = t ++ ending := by
  rw [pieces] at h
  obtain ⟨i, hi, rfl⟩ := List.mem_iff_getElem.mp h
  rw [List.getElem_zipWith]
  exact ⟨_, List.getElem_mem _, rfl⟩

/-- Every comment is put in, whole. -/
theorem mem_splice_pieces {source ending : Text} {ds : List Declaration} {cs : List Text}
    (hlen : cs.length = ds.length) {t : Text} (ht : t ∈ cs) {c : CodePoint} (hc : c ∈ t)
    (cursor : Nat) : c ∈ splice source cursor (pieces ending ds cs) := by
  induction cs generalizing ds cursor with
  | nil => cases ht
  | cons t' cs ih =>
    obtain ⟨d, ds, rfl⟩ := List.exists_cons_of_length_eq_add_one hlen.symm
    rw [splice_cons_pieces]
    rcases List.mem_cons.mp ht with rfl | ht
    · simp [hc]
    · exact List.mem_append_right _ (ih (Nat.succ.inj hlen) ht d.range.start)

theorem exec_next_supply (c : Text) (more : List (Except Failure Text)) (n : Nat) :
    Action.exec Supply.next ⟨.ok c :: more, n⟩ = (.ok (some c), ⟨more, n + 1⟩) :=
  rfl

/-- Comments that are all there are spliced in, and what comes behind them is not taken. -/
theorem insertComments_append {source : Text} (ending : Text) {ds : List Declaration}
    {cs : List Text} (hin : ∀ d ∈ ds, d.range.stop ≤ source.length) (hlen : cs.length = ds.length)
    (more : List (Except Failure Text)) :
    insertComments source ds ending (cs.map .ok ++ more) =
      (.ok (splice source 0 (pieces ending ds cs)), ⟨more, ds.length⟩) := by
  have key : ∀ (cursor n : Nat), Action.exec (copyFrom source ending Supply.next cursor ds)
      ⟨cs.map .ok ++ more, n⟩ =
        (.ok (splice source cursor (pieces ending ds cs)), ⟨more, n + ds.length⟩) := by
    induction ds generalizing cs with
    | nil =>
      intro cursor n
      rw [List.length_nil, List.length_eq_zero_iff] at hlen
      subst hlen
      rfl
    | cons d ds ih =>
      intro cursor n
      cases cs with
      | nil => simp at hlen
      | cons c cs =>
        rw [List.map_cons, List.cons_append,
          exec_copyFrom_some (hin d List.mem_cons_self) (exec_next_supply c _ n),
          ih (fun d' hd => hin d' (List.mem_cons_of_mem d hd)) (by simpa using hlen),
          splice_cons_pieces, List.length_cons, Nat.add_assoc, Nat.add_comm 1]
        rfl
  rw [insertComments, key, Nat.zero_add]

theorem insertComments_eq_splice {source ending : Text} {ds : List Declaration} {cs : List Text}
    (hin : ∀ d ∈ ds, d.range.stop ≤ source.length) (hlen : cs.length = ds.length) :
    insertComments source ds ending (cs.map .ok) =
      (.ok (splice source 0 (pieces ending ds cs)), ⟨[], ds.length⟩) := by
  have h := insertComments_append ending hin hlen []
  rwa [List.append_nil] at h

/-- When every range lies in the source, inserting fails only with a failure of a comment, or for
want of one. -/
theorem insertComments_error_of_inside {source ending : Text} {ds : List Declaration}
    (hin : ∀ d ∈ ds, d.range.stop ≤ source.length) {comments : List (Except Failure Text)}
    {e : Failure} (he : (insertComments source ds ending comments).1 = .error e) :
    .error e ∈ comments ∨ ∃ d ∈ ds, e = .noComment d.name := by
  have key : ∀ cursor n, (Action.exec (copyFrom source ending Supply.next cursor ds)
      ⟨comments, n⟩).1 = .error e → .error e ∈ comments ∨ ∃ d ∈ ds, e = .noComment d.name := by
    clear he
    induction ds generalizing comments with
    | nil =>
      intro cursor n he
      cases he
    | cons d ds ih =>
      intro cursor n he
      have hd := hin d List.mem_cons_self
      cases comments with
      | nil =>
        rw [exec_copyFrom_none hd (show Action.exec Supply.next ⟨[], n⟩ = _ from rfl)] at he
        cases he
        exact .inr ⟨d, List.mem_cons_self, rfl⟩
      | cons item comments =>
        cases item with
        | error e' =>
          rw [exec_copyFrom_error hd
            (show Action.exec Supply.next ⟨.error e' :: comments, n⟩ = _ from rfl)] at he
          cases he
          exact .inl List.mem_cons_self
        | ok c =>
          rw [exec_copyFrom_some hd (exec_next_supply c comments n)] at he
          have hrest := ih (fun d' hd' => hin d' (List.mem_cons_of_mem d hd')) _ _
            (map_eq_error.mp he)
          rcases hrest with h | ⟨d', h, rfl⟩
          · exact .inl (List.mem_cons_of_mem _ h)
          · exact .inr ⟨d', List.mem_cons_of_mem d h, rfl⟩
  exact key 0 0 he

/-- A source with comments put in is written as its bytes with the bytes of the comments put in at
the boundaries. -/
theorem encodeEscaped_splice (bytes : Bytes) {ending : Text} {cs : List Text} {es : List Bytes}
    (h : List.Forall₂ (fun c e => Utf8.encodeEscaped (c ++ ending) = .ok e) cs es)
    (ds : List Declaration) (cursor : Nat) :
    Utf8.encodeEscaped (splice (Utf8.decodeEscaped bytes) cursor (pieces ending ds cs)) =
      .ok (splice bytes (Utf8.boundary bytes cursor)
        ((ds.map fun d => Utf8.boundary bytes d.range.start).zip es)) := by
  induction h generalizing ds cursor with
  | nil =>
    cases ds <;> exact Utf8.encodeEscaped_drop bytes cursor
  | @cons c e cs es hc _ ih =>
    cases ds with
    | nil => exact Utf8.encodeEscaped_drop bytes cursor
    | cons d ds =>
      have hgap := Utf8.encodeEscaped_slice bytes cursor d.range.start
      exact Utf8.encodeEscaped_append (Utf8.encodeEscaped_append hgap hc) (ih ds d.range.start)

end Insertion

end DartComments
