import DartComments.Proofs.Comment.Insertion
import Mathlib.Data.Nat.Find
import Mathlib.Order.Bounds.Basic

/-!
# How far the comments are taken

A declaration is blocked when its range ends outside of the source, when there is no comment left
for it, or when its comment turns out to be a failure. Inserting comes to an end at the first
declaration that is blocked, with its failure; the range is looked at before the comment is taken.

    Fails source ds comments i e n:  number i is blocked, with failure e and n comments taken by then

What lies behind the last comment that was taken is never touched.
-/

namespace DartComments

namespace Insertion

/-- There is nothing to put in before declaration number `i`. -/
def Blocked (source : Text) (ds : List Declaration) (comments : List (Except Failure Text))
    (i : Nat) : Prop :=
  ∃ d, ds[i]? = some d ∧
    (source.length < d.range.stop ∨ comments.length = i ∨ ∃ e, comments[i]? = some (.error e))

/-- How inserting fails at declaration number `i` when it gets there, and how many comments have
been taken by then. -/
inductive Fails (source : Text) (ds : List Declaration) (comments : List (Except Failure Text))
    (i : Nat) : Failure → Nat → Prop where
  | outside {d : Declaration} (hd : ds[i]? = some d) (hout : source.length < d.range.stop) :
    Fails source ds comments i (.outsideSource d.range d.name source.length) i
  | exhausted {d : Declaration} (hd : ds[i]? = some d) (hin : d.range.stop ≤ source.length)
    (hend : comments.length = i) : Fails source ds comments i (.noComment d.name) i
  | failed {d : Declaration} {e : Failure} (hd : ds[i]? = some d)
    (hin : d.range.stop ≤ source.length) (he : comments[i]? = some (.error e)) :
    Fails source ds comments i e (i + 1)

variable {source ending : Text} {d : Declaration} {ds : List Declaration} {c : Text}
  {comments : List (Except Failure Text)} {i n : Nat} {e : Failure}

theorem Blocked.exists_fails (h : Blocked source ds comments i) :
    ∃ e n, Fails source ds comments i e n := by
  obtain ⟨d, hd, h⟩ := h
  by_cases hin : d.range.stop ≤ source.length
  · rcases h with hout | hend | ⟨e, he⟩
    · exact absurd hin (Nat.not_le_of_lt hout)
    · exact ⟨_, _, .exhausted hd hin hend⟩
    · exact ⟨_, _, .failed hd hin he⟩
  · exact ⟨_, _, .outside hd (Nat.lt_of_not_le hin)⟩

/-! ## One declaration after the other -/

/-- A first declaration that is not blocked lies in the source and has a comment. -/
theorem exists_of_not_blocked_zero (h : ¬ Blocked source (d :: ds) comments 0) :
    d.range.stop ≤ source.length ∧ ∃ c more, comments = .ok c :: more := by
  have hin : d.range.stop ≤ source.length :=
    Nat.le_of_not_lt fun hout => h ⟨d, rfl, .inl hout⟩
  refine ⟨hin, ?_⟩
  match comments with
  | [] => exact absurd ⟨d, rfl, .inr (.inl rfl)⟩ h
  | .error e :: _ => exact absurd ⟨d, rfl, .inr (.inr ⟨e, rfl⟩)⟩ h
  | .ok c :: more => exact ⟨c, more, rfl⟩

theorem blocked_succ :
    Blocked source (d :: ds) (.ok c :: comments) (i + 1) ↔ Blocked source ds comments i := by
  simp only [Blocked, List.getElem?_cons_succ, List.length_cons, Nat.add_right_cancel_iff]

theorem Fails.of_succ (h : Fails source (d :: ds) (.ok c :: comments) (i + 1) e n) :
    ∃ m, n = m + 1 ∧ Fails source ds comments i e m := by
  cases h with
  | outside hd hout => exact ⟨i, rfl, .outside hd hout⟩
  | exhausted hd hin hend => exact ⟨i, rfl, .exhausted hd hin (Nat.succ.inj hend)⟩
  | failed hd hin he => exact ⟨i + 1, rfl, .failed hd hin he⟩

/-- What fails at the first declaration ends the copying there. -/
theorem exec_copyFrom_fails_zero (h : Fails source (d :: ds) comments 0 e n) (cursor k : Nat) :
    Action.exec (copyFrom source ending Supply.next cursor (d :: ds)) ⟨comments, k⟩ =
      (.error e, ⟨comments.drop n, k + n⟩) := by
  cases h with
  | outside hd hout =>
    cases hd
    exact exec_copyFrom_outside hout
  | exhausted hd hin hend =>
    cases hd
    obtain rfl := List.length_eq_zero_iff.mp hend
    exact exec_copyFrom_none hin rfl
  | failed hd hin he =>
    cases hd
    cases comments with
    | nil => cases he
    | cons item more =>
      cases he
      exact exec_copyFrom_error hin rfl

/-- Copying ends at the first declaration that is blocked; all before it have taken one comment
each. -/
theorem exec_copyFrom_fails (h : Fails source ds comments i e n)
    (hfirst : ∀ j < i, ¬ Blocked source ds comments j) (cursor k : Nat) :
    Action.exec (copyFrom source ending Supply.next cursor ds) ⟨comments, k⟩ =
      (.error e, ⟨comments.drop n, k + n⟩) := by
  induction i generalizing ds comments n cursor k with
  | zero =>
    cases ds with
    | nil => cases h <;> contradiction
    | cons d ds => exact exec_copyFrom_fails_zero h cursor k
  | succ i ih =>
    cases ds with
    | nil => cases h <;> contradiction
    | cons d ds =>
      obtain ⟨hin, c, more, rfl⟩ := exists_of_not_blocked_zero (hfirst 0 (Nat.succ_pos i))
      obtain ⟨m, rfl, hlater⟩ := h.of_succ
      have hrest := ih hlater (fun j hj => mt blocked_succ.mpr (hfirst (j + 1) (Nat.succ_lt_succ hj)))
        d.range.start (k + 1)
      rw [exec_copyFrom_some hin (exec_next_supply c more k), hrest, List.drop_succ_cons,
        Nat.add_right_comm, Nat.add_assoc k m 1]
      rfl

/-- Where no declaration is blocked, all lie in the source and there is a comment for each. -/
theorem exists_comments_of_not_blocked (h : ∀ i, ¬ Blocked source ds comments i) :
    (∀ d ∈ ds, d.range.stop ≤ source.length) ∧
      ∃ (cs : List Text) (more : List (Except Failure Text)),
        cs.length = ds.length ∧ comments = cs.map .ok ++ more := by
  induction ds generalizing comments with
  | nil => exact ⟨by simp, [], comments, rfl, rfl⟩
  | cons d ds ih =>
    obtain ⟨hd, c, rest, rfl⟩ := exists_of_not_blocked_zero (h 0)
    obtain ⟨hin, cs, more, hlen, rfl⟩ := ih fun i => mt blocked_succ.mpr (h (i + 1))
    exact ⟨List.forall_mem_cons.mpr ⟨hd, hin⟩, c :: cs, more, congrArg (· + 1) hlen, rfl⟩

/-! ## The first that is blocked -/

theorem insertComments_of_isLeast (ending : Text)
    (h : IsLeast {i | Blocked source ds comments i} i) :
    ∃ e n, Fails source ds comments i e n ∧
      insertComments source ds ending comments = (.error e, ⟨comments.drop n, n⟩) := by
  obtain ⟨e, n, hf⟩ := Blocked.exists_fails h.1
  refine ⟨e, n, hf, ?_⟩
  have hfirst : ∀ j < i, ¬ Blocked source ds comments j :=
    fun j hj hb => absurd (h.2 hb) (Nat.not_le_of_lt hj)
  rw [insertComments, exec_copyFrom_fails hf hfirst, Nat.zero_add]

theorem insertComments_of_not_blocked (ending : Text)
    (h : ∀ i, ¬ Blocked source ds comments i) :
    ∃ t, insertComments source ds ending comments =
      (.ok t, ⟨comments.drop ds.length, ds.length⟩) := by
  obtain ⟨hin, cs, more, hlen, rfl⟩ := exists_comments_of_not_blocked h
  have hmap : (cs.map (.ok : Text → Except Failure Text)).length = ds.length := by
    rw [List.length_map, hlen]
  refine ⟨splice source 0 (pieces ending ds cs), ?_⟩
  rw [insertComments_append ending hin hlen more, List.drop_left' hmap]

theorem exists_isLeast_of_blocked (h : Blocked source ds comments i) :
    ∃ j, IsLeast {j | Blocked source ds comments j} j := by
  classical
  exact ⟨Nat.find ⟨i, h⟩, Nat.find_spec ⟨i, h⟩, fun _ hb => Nat.find_min' _ hb⟩

/-- **Comments are taken one at a time.** Inserting fails exactly when a declaration is blocked, with
the failure of the first that is. One comment has been taken for each declaration before it, and one
more when it is the comment that failed; without a failure, one for each declaration. All others are
left. -/
theorem insertComments_stops_at_first_blocked (source ending : Text) (ds : List Declaration)
    (comments : List (Except Failure Text)) :
    let out := insertComments source ds ending comments
    ((∃ e, out.1 = .error e) ↔ ∃ i, IsLeast {i | Blocked source ds comments i} i) ∧
    (∀ i, IsLeast {i | Blocked source ds comments i} i →
      ∃ e n, Fails source ds comments i e n ∧ out.1 = .error e ∧ out.2.taken = n) ∧
    ((∃ t, out.1 = .ok t) → out.2.taken = ds.length) ∧
    out.2.pending = comments.drop out.2.taken := by
  intro out
  by_cases hblocked : ∃ i, Blocked source ds comments i
  · obtain ⟨i, hi⟩ := exists_isLeast_of_blocked hblocked.choose_spec
    obtain ⟨e, n, hf, hrun⟩ := insertComments_of_isLeast ending hi
    have hout : out = _ := hrun
    rw [hout]
    refine ⟨iff_of_true ⟨e, rfl⟩ ⟨i, hi⟩, fun j hj => ?_, ?_, rfl⟩
    · cases hj.unique hi
      exact ⟨e, n, hf, rfl, rfl⟩
    · rintro ⟨t, ht⟩
      cases ht
  · have hfree : ∀ i, ¬ Blocked source ds comments i := fun i hi => hblocked ⟨i, hi⟩
    obtain ⟨t, hrun⟩ := insertComments_of_not_blocked ending hfree
    have hout : out = _ := hrun
    rw [hout]
    refine ⟨iff_of_false ?_ ?_, fun i hi => absurd hi.1 (hfree i), fun _ => rfl, rfl⟩
    · rintro ⟨e, he⟩
      cases he
    · rintro ⟨i, hi⟩
      exact hfree i hi.1

/-- Two ranges, of which the second ends outside of a source of four code points. -/
def overhanging : List Declaration :=
  [⟨"f", .function, 0, 2, by decide⟩, ⟨"g", .method, 2, 5, by decide⟩]

/-- The range of the second declaration is refused before its comment, a failure, is taken. -/
theorem overhanging_stops :
    let comments : List (Except Failure Text) := [.ok "x", .error .noSource, .ok "y"]
    let out := insertComments "abcd" overhanging "\n" comments
    IsLeast {i | Blocked "abcd" overhanging comments i} 1 ∧
    (∃ range, out.1 = .error (.outsideSource range "g" 4)) ∧ out.2.taken = 1 ∧
    out.2.pending = [.error .noSource, .ok "y"] := by
  intro comments out
  have hleast : IsLeast {i | Blocked "abcd" overhanging comments i} 1 := by
    refine ⟨⟨_, rfl, .inl (by decide)⟩, fun j hj => Nat.pos_of_ne_zero ?_⟩
    rintro rfl
    obtain ⟨d, hd, h⟩ := hj
    cases hd
    rcases h with hout | hend | ⟨e, he⟩
    · exact absurd hout (by decide)
    · cases hend
    · cases he
  obtain ⟨-, hfirst, -, hleft⟩ :=
    insertComments_stops_at_first_blocked "abcd" "\n" overhanging comments
  obtain ⟨e, n, hf, he, htaken⟩ := hfirst 1 hleast
  cases hf with
  | outside hd _ =>
    cases hd
    exact ⟨hleast, ⟨_, he⟩, htaken, hleft.trans (by rw [htaken]; rfl)⟩
  | exhausted hd hin _ =>
    cases hd
    exact absurd hin (by decide)
  | failed hd hin _ =>
    cases hd
    exact absurd hin (by decide)

end Insertion

end DartComments
