import DartComments.Comment.Generation
import DartComments.Proofs.Comment.Insertion

/-!
# Comments are asked for in turn

An attempt at a declaration is `Answered` or it `Stops`: its range lies outside the source, there is
no request to send, or what comes back is no comment. Only in the last case has a request been sent.

`annotate` attempts the declarations one after the other until one stops. What it has sent and
printed by then is what the attempts before it and the one that stopped leave behind, and nothing of
a later one.
-/

namespace DartComments

/-- A prompt has messages. -/
theorem Prompt.build_ne_nil {p : PromptTemplate} {name source : Text} {messages : List Message}
    (h : Prompt.build p name source = .ok messages) : messages ≠ [] := by
  rw [Prompt.build] at h
  obtain ⟨shots, -, h⟩ := bind_eq_ok.mp h
  obtain ⟨question, -, h⟩ := bind_eq_ok.mp h
  cases h
  exact List.cons_ne_nil _ _

/-- With messages to send, a call sends its request and takes what comes back. -/
theorem Client.exec_generate (client : Client) {messages : List Json} (h : messages ≠ [])
    (w : World) : Action.exec (client.generate (.arr messages)) w =
      match client.request (.arr messages) with
      | .error e => (.error e, w)
      | .ok r =>
        if client.closed then (.error .closed, w)
        else (client.receive r (w.outcome 0), w.advance [.sent r] 1) := by
  obtain ⟨m, ms, rfl⟩ := List.exists_cons_of_ne_nil h
  rw [Client.generate]
  show Action.exec (Action.ofExcept id (client.request (.arr (m :: ms))) >>= _) w = _
  rw [Action.exec_bind, Action.exec_ofExcept]
  cases client.request (.arr (m :: ms)) with
  | error e => rfl
  | ok r =>
    show Action.exec (if client.closed then _ else _) w = if client.closed then _ else _
    split
    · rfl
    · refine (Action.exec_bind_ok (Action.exec_send r w) _).trans ?_
      rw [Action.exec_ofExcept]
      cases client.receive r (w.outcome 0) <;> rfl

namespace Generation

section

variable (client : Client) (template : PromptTemplate) (source : Text)

/-- The request for the comment of a declaration, or why there is none to send. -/
def ask (d : Declaration) : Except Failure Request := do
  let messages ← (Prompt.build template d.name (d.sourceText source)).mapError .template
  let r ← client.request (.arr (messages.map Message.toJson))
  if client.closed then .error .closed else pure r

/-- The line of progress of an attempt. -/
def lookupLine (d : Declaration) : Text := "looking up " ++ d.name

/-- What an attempt tells, when progress is told. -/
def lookup (w : World) (d : Declaration) : List Event := w.progress (lookupLine d)

/-- The attempt at `d` sends request `r`, and outcome `o` brings comment `c`. -/
structure Answered (o : Outcome) (d : Declaration) (r : Request) (c : Text) : Prop where
  inside : d.range.stop ≤ source.length
  asked : ask client template source d = .ok r
  received : client.receive r o = .ok c

/-- The attempt at `d` fails with `e` when the outcome of its request would be `o`, and leaves some
events behind. -/
inductive Stops (w : World) (o : Outcome) (d : Declaration) : Failure → List Event → Prop
  | outside : source.length < d.range.stop →
      Stops w o d (.outsideSource d.range d.name source.length) []
  | unasked {e : Failure} : d.range.stop ≤ source.length →
      ask client template source d = .error e → Stops w o d e (lookup w d)
  | unanswered {r : Request} {e : Failure} : d.range.stop ≤ source.length →
      ask client template source d = .ok r → client.receive r o = .error e →
      Stops w o d e (lookup w d ++ [.sent r])

/-- The attempts at some declarations send requests `rs`, and the outcomes bring comments `cs`. -/
inductive AnsweredInTurn : (Nat → Outcome) → List Declaration → List Request → List Text → Prop
  | nil {o : Nat → Outcome} : AnsweredInTurn o [] [] []
  | cons {o : Nat → Outcome} {d : Declaration} {ds : List Declaration} {r : Request}
      {rs : List Request} {c : Text} {cs : List Text} :
      Answered client template source (o 0) d r c →
      AnsweredInTurn (fun i => o (i + 1)) ds rs cs →
      AnsweredInTurn o (d :: ds) (r :: rs) (c :: cs)

/-- Each declaration has a request, and what comes back for it is its comment. -/
structure Replied (o : Nat → Outcome) (ds : List Declaration) (cs : List Text) : Prop where
  length_eq : cs.length = ds.length
  received : ∀ i d c, ds[i]? = some d → cs[i]? = some c →
    ∃ r, ask client template source d = .ok r ∧ client.receive r (o i) = .ok c

/-- What attempts that are answered leave behind: for each its line of progress and its request. -/
def exchanges (w : World) (ds : List Declaration) (rs : List Request) : List Event :=
  (List.zipWith (fun d r => lookup w d ++ [.sent r]) ds rs).flatten

variable {client template source}

/-- Every attempt is answered or stops. -/
theorem answered_or_stops (client : Client) (template : PromptTemplate) (source : Text)
    (w : World) (o : Outcome) (d : Declaration) :
    (∃ r c, Answered client template source o d r c) ∨
      ∃ e left, Stops client template source w o d e left := by
  by_cases hin : d.range.stop ≤ source.length
  · cases ha : ask client template source d with
    | error e => exact .inr ⟨e, _, .unasked hin ha⟩
    | ok r =>
      cases hr : client.receive r o with
      | error e => exact .inr ⟨e, _, .unanswered hin ha hr⟩
      | ok c => exact .inl ⟨r, c, hin, ha, hr⟩
  · exact .inr ⟨_, _, .outside (by omega)⟩

/-- All attempts are answered, or there is a first that stops. -/
theorem answeredInTurn_or_stops (client : Client) (template : PromptTemplate) (source : Text)
    (w : World) (o : Nat → Outcome) (ds : List Declaration) :
    (∃ rs cs, AnsweredInTurn client template source o ds rs cs) ∨
      ∃ before d later rs cs e left, ds = before ++ d :: later ∧
        AnsweredInTurn client template source o before rs cs ∧
        Stops client template source w (o before.length) d e left := by
  induction ds generalizing o with
  | nil => exact .inl ⟨[], [], .nil⟩
  | cons d ds ih =>
    rcases answered_or_stops client template source w (o 0) d with ⟨r, c, ha⟩ | ⟨e, left, hs⟩
    · rcases ih (fun i => o (i + 1)) with
        ⟨rs, cs, h⟩ | ⟨before, d', later, rs, cs, e, left, rfl, h, hs⟩
      · exact .inl ⟨r :: rs, c :: cs, .cons ha h⟩
      · exact .inr ⟨d :: before, d', later, r :: rs, c :: cs, e, left, rfl, .cons ha h, hs⟩
    · exact .inr ⟨[], d, ds, [], [], e, left, rfl, .nil, hs⟩

/-- Attempts inside the source that have replies are answered. -/
theorem Replied.answeredInTurn {o : Nat → Outcome} {ds : List Declaration} {cs : List Text}
    (h : Replied client template source o ds cs) (hin : ∀ d ∈ ds, d.range.stop ≤ source.length) :
    ∃ rs, AnsweredInTurn client template source o ds rs cs := by
  induction ds generalizing o cs with
  | nil =>
    rw [List.length_eq_zero_iff.mp h.length_eq]
    exact ⟨[], .nil⟩
  | cons d ds ih =>
    cases cs with
    | nil =>
      have := h.length_eq
      simp at this
    | cons c cs =>
      obtain ⟨r, hask, hrec⟩ := h.received 0 d c rfl rfl
      have hrest : Replied client template source (fun i => o (i + 1)) ds cs :=
        ⟨Nat.succ.inj h.length_eq, fun i => h.received (i + 1)⟩
      obtain ⟨rs, hrs⟩ := ih hrest fun d' hd => hin d' (List.mem_cons_of_mem d hd)
      exact ⟨r :: rs, .cons ⟨hin d List.mem_cons_self, hask, hrec⟩ hrs⟩

namespace AnsweredInTurn

variable {o : Nat → Outcome} {ds : List Declaration} {rs : List Request} {cs : List Text}

theorem length_requests (h : AnsweredInTurn client template source o ds rs cs) :
    rs.length = ds.length := by
  induction h with
  | nil => rfl
  | cons _ _ ih => rw [List.length_cons, List.length_cons, ih]

theorem length_comments (h : AnsweredInTurn client template source o ds rs cs) :
    cs.length = ds.length := by
  induction h with
  | nil => rfl
  | cons _ _ ih => rw [List.length_cons, List.length_cons, ih]

theorem inside (h : AnsweredInTurn client template source o ds rs cs) :
    ∀ d ∈ ds, d.range.stop ≤ source.length := by
  induction h with
  | nil => simp
  | cons ha _ ih => exact List.forall_mem_cons.mpr ⟨ha.inside, ih⟩

end AnsweredInTurn

/-! ## One attempt -/

/-- The line of progress is printed whatever comes of the attempt; a request is sent when there is
one. -/
theorem exec_comment (client : Client) (template : PromptTemplate) (source : Text) (w : World)
    (d : Declaration) : Action.exec (comment client template d.name (d.sourceText source)) w =
      match ask client template source d with
      | .error e => (.error e, w.log (lookup w d))
      | .ok r => (client.receive r (w.outcome 0), w.advance (lookup w d ++ [.sent r]) 1) := by
  rw [comment, Action.exec_bind_ok (Action.exec_echo _ w), Action.exec_bind, Action.exec_ofExcept,
    ask]
  cases hb : Prompt.build template d.name (d.sourceText source) with
  | error e => rfl
  | ok messages =>
    have hne : messages.map Message.toJson ≠ [] := by
      simpa using Prompt.build_ne_nil hb
    show Action.exec (client.generate (.arr (messages.map Message.toJson))) _ = _
    rw [Client.exec_generate client hne]
    show _ = match (client.request (.arr (messages.map Message.toJson)) >>= fun r =>
        if client.closed then .error .closed else pure r) with
      | .error e => _
      | .ok r => _
    cases client.request (.arr (messages.map Message.toJson)) with
    | error e => rfl
    | ok r =>
      simp only [bind, Except.bind]
      by_cases hc : client.closed
      · rw [if_pos hc, if_pos hc]
        rfl
      · rw [if_neg hc, if_neg hc, ← World.advance_zero, World.advance_advance]
        rfl

theorem exec_act {α : Type} (x : Action α) (ds : List Declaration) (w : World) :
    Action.exec (act x) ⟨ds, w⟩ = ((Action.exec x w).1, ⟨ds, (Action.exec x w).2⟩) := by
  rw [act, Action.exec_bind_ok (Action.exec_get _)]
  show Action.exec (set _ >>= fun _ => Action.ofExcept id (Action.exec x w).1) _ = _
  rw [Action.exec_bind_ok (Action.exec_set _ _), Action.exec_ofExcept]
  cases (Action.exec x w).1 <;> rfl

theorem exec_next (client : Client) (template : PromptTemplate) (source : Text) (d : Declaration)
    (ds : List Declaration) (w : World) :
    Action.exec (next client template source) ⟨d :: ds, w⟩ =
      match Action.exec (comment client template d.name (d.sourceText source)) w with
      | (.ok c, w') => (.ok (some c), ⟨ds, w'⟩)
      | (.error e, w') => (.error e, ⟨[], w'⟩) := by
  rw [next, Action.exec_bind_ok (Action.exec_get _)]
  show Action.exec (modify _ >>= fun _ => act _ >>= _) _ = _
  rw [Action.exec_bind_ok (Action.exec_modify _ _), Action.exec_bind, exec_act]
  generalize Action.exec (comment client template d.name (d.sourceText source)) w = out
  obtain ⟨r, w'⟩ := out
  cases r <;> rfl

variable {d : Declaration} {ds : List Declaration} {w : World}

/-- An attempt that is answered leaves its comment and its exchange. -/
theorem exec_next_answered {r : Request} {c : Text}
    (h : Answered client template source (w.outcome 0) d r c) :
    Action.exec (next client template source) ⟨d :: ds, w⟩ =
      (.ok (some c), ⟨ds, w.advance (lookup w d ++ [.sent r]) 1⟩) := by
  rw [exec_next, exec_comment, h.asked]
  dsimp only
  rw [h.received]

/-- An attempt that stops ends the copying, and of its world only what it leaves behind is new. -/
theorem exec_copyFrom_stops {ending : Text} {cursor : Nat} {e : Failure} {left : List Event}
    (h : Stops client template source w (w.outcome 0) d e left) :
    ∃ p n, Action.exec (Insertion.copyFrom source ending (next client template source) cursor
      (d :: ds)) ⟨d :: ds, w⟩ =
        (.error e, ⟨p, w.advance left n⟩) := by
  cases h with
  | outside hout =>
    rw [Insertion.exec_copyFrom_outside hout]
    exact ⟨_, 0, by rw [World.advance_zero, World.log_nil]⟩
  | unasked hin ha =>
    refine ⟨[], 0, Insertion.exec_copyFrom_error hin ?_⟩
    rw [exec_next, exec_comment, ha]
    rfl
  | @unanswered r e hin ha hr =>
    refine ⟨[], 1, Insertion.exec_copyFrom_error hin ?_⟩
    rw [exec_next, exec_comment, ha]
    dsimp only
    rw [hr]

/-! ## All attempts -/

theorem exchanges_cons (w : World) (d : Declaration) (ds : List Declaration) (r : Request)
    (rs : List Request) : exchanges w (d :: ds) (r :: rs) =
      lookup w d ++ [.sent r] ++ exchanges w ds rs := rfl

theorem outcome_advance_one (w : World) (es : List Event) :
    (w.advance es 1).outcome = fun i => w.outcome (i + 1) := by
  funext i
  rw [World.outcome_advance, Nat.add_comm]

/-- When all attempts are answered, their comments are spliced in. -/
theorem exec_copyFrom_answered (ending : Text) {o : Nat → Outcome} {rs : List Request}
    {cs : List Text} (h : AnsweredInTurn client template source o ds rs cs) (ho : w.outcome = o)
    (cursor : Nat) : Action.exec (Insertion.copyFrom source ending (next client template source)
      cursor ds) ⟨ds, w⟩ =
        (.ok (Insertion.splice source cursor (Insertion.pieces ending ds cs)),
          ⟨[], w.advance (exchanges w ds rs) ds.length⟩) := by
  induction h generalizing w cursor with
  | nil =>
    show _ = (_, Generation.mk [] (w.log []))
    rw [World.log_nil]
    rfl
  | @cons o d ds r rs c cs ha _ ih =>
    subst ho
    rw [Insertion.exec_copyFrom_some ha.inside (exec_next_answered ha),
      ih (outcome_advance_one w _), World.advance_advance, Insertion.splice_cons_pieces,
      exchanges_cons, List.length_cons, Nat.add_comm 1]
    rfl

theorem Stops.advance {o : Outcome} {e : Failure} {left : List Event}
    (h : Stops client template source w o d e left) (es : List Event) (n : Nat) :
    Stops client template source (w.advance es n) o d e left := by
  cases h with
  | outside hout => exact .outside hout
  | unasked hin ha => exact .unasked hin ha
  | unanswered hin ha hr => exact .unanswered hin ha hr

/-- The attempts before the one that stops are answered, and none follows it. -/
theorem exec_copyFrom_answered_stops (later : List Declaration) (ending : Text)
    {o : Nat → Outcome} {before : List Declaration} {rs : List Request} {cs : List Text}
    {e : Failure} {left : List Event} (h : AnsweredInTurn client template source o before rs cs)
    (hs : Stops client template source w (o before.length) d e left) (ho : w.outcome = o)
    (cursor : Nat) : ∃ p n, Action.exec (Insertion.copyFrom source ending
      (next client template source) cursor (before ++ d :: later)) ⟨before ++ d :: later, w⟩ =
        (.error e, ⟨p, w.advance (exchanges w before rs ++ left) n⟩) := by
  induction h generalizing w cursor with
  | nil =>
    subst ho
    exact exec_copyFrom_stops hs
  | @cons o d' before r rs c cs ha _ ih =>
    subst ho
    rw [List.cons_append, Insertion.exec_copyFrom_some ha.inside (exec_next_answered ha)]
    obtain ⟨p, n, h⟩ := ih (hs.advance _ 1) (outcome_advance_one w _) d'.range.start
    refine ⟨p, 1 + n, ?_⟩
    rw [h, World.advance_advance, exchanges_cons, List.append_assoc _ _ left]
    rfl

theorem exec_forEach {α : Type} (x : Run Generation α) (ds : List Declaration) (w : World) :
    Action.exec (forEach ds x) w =
      ((Action.exec x ⟨ds, w⟩).1, (Action.exec x ⟨ds, w⟩).2.world) := by
  rw [forEach, Action.exec_bind_ok (Action.exec_get _)]
  show Action.exec (set _ >>= fun _ => Action.ofExcept id (Action.exec x ⟨ds, w⟩).1) _ = _
  rw [Action.exec_bind_ok (Action.exec_set _ _), Action.exec_ofExcept]
  cases (Action.exec x ⟨ds, w⟩).1 <;> rfl

/-- The requests among the events of answered attempts. -/
theorem filterMap_exchanges {o : Nat → Outcome} {rs : List Request} {cs : List Text}
    (h : AnsweredInTurn client template source o ds rs cs) (w : World) :
    (exchanges w ds rs).filterMap Event.request? = rs := by
  induction h with
  | nil => rfl
  | cons _ _ ih =>
    rw [exchanges_cons, List.filterMap_append, List.filterMap_append, lookup,
      World.filterMap_progress, ih]
    rfl

end

/-- Attempts report nothing. -/
theorem flatMap_exchanges {client : Client} {template : PromptTemplate} {source : Text}
    {o : Nat → Outcome} {ds : List Declaration} {rs : List Request} {cs : List Text}
    (h : AnsweredInTurn client template source o ds rs cs) (w : World) :
    (exchanges w ds rs).flatMap Event.report = [] := by
  induction h with
  | nil => rfl
  | cons _ _ ih =>
    rw [exchanges_cons, List.flatMap_append, List.flatMap_append, lookup, World.flatMap_progress,
      ih]
    rfl

theorem Stops.flatMap_report {client : Client} {template : PromptTemplate} {source : Text}
    {w : World} {o : Outcome} {d : Declaration} {e : Failure} {left : List Event}
    (h : Stops client template source w o d e left) : left.flatMap Event.report = [] := by
  cases h with
  | outside _ => rfl
  | unasked _ _ => exact World.flatMap_progress w _
  | unanswered _ _ _ =>
    rw [List.flatMap_append, lookup, World.flatMap_progress]
    rfl

/-! ## The whole run -/

/-- The line of progress that tells how many declarations there are. -/
def foundLine (ds : List Declaration) : Text :=
  "Found " ++ Text.ofNat ds.length ++ " Dart declarations"

def found (w : World) (ds : List Declaration) : List Event := w.progress (foundLine ds)

theorem exec_annotate (client : Client) (u : SourceUnit) (ds : List Declaration)
    (template : PromptTemplate) (ending : Text) (w : World) :
    Action.exec (annotate client u (some ds) template ending) w =
      Action.exec (forEach ds (Insertion.copyFrom u.source ending (next client template u.source)
        0 ds)) (w.log (found w ds)) := by
  rw [annotate, pure_bind]
  exact Action.exec_bind_ok (Action.exec_echo _ w) _

variable {client : Client} {template : PromptTemplate} {u : SourceUnit} {ds : List Declaration}
  {rs : List Request} {cs : List Text} {w : World}

theorem exec_annotate_answered (ending : Text)
    (h : AnsweredInTurn client template u.source w.outcome ds rs cs) :
    Action.exec (annotate client u (some ds) template ending) w =
      (.ok (Insertion.splice u.source 0 (Insertion.pieces ending ds cs)),
        w.advance (found w ds ++ exchanges w ds rs) ds.length) := by
  have hrun := exec_copyFrom_answered (w := w.log (found w ds)) ending h rfl 0
  rw [exec_annotate, exec_forEach, hrun, ← World.advance_zero, World.advance_advance, Nat.zero_add]
  rfl

theorem exec_annotate_stops (later : List Declaration) (ending : Text) {d : Declaration}
    {e : Failure} {left : List Event}
    (h : AnsweredInTurn client template u.source w.outcome ds rs cs)
    (hs : Stops client template u.source w (w.outcome ds.length) d e left) :
    ∃ n, Action.exec (annotate client u (some (ds ++ d :: later)) template ending) w =
      (.error e, w.advance (found w (ds ++ d :: later) ++ exchanges w ds rs ++ left) n) := by
  obtain ⟨p, n, hrun⟩ := exec_copyFrom_answered_stops later ending h
    (hs.advance (found w (ds ++ d :: later)) 0) rfl 0
  refine ⟨0 + n, ?_⟩
  rw [exec_annotate, exec_forEach, ← World.advance_zero, hrun, World.advance_advance,
    ← List.append_assoc]
  rfl

/-- The requests of a run that tells what it found and does some more. -/
theorem requests_advance (w : World) (ds : List Declaration) (es : List Event) (n : Nat) :
    (w.advance (found w ds ++ es) n).requests = w.requests ++ es.filterMap Event.request? := by
  rw [World.requests_eq_filterMap, World.requests_eq_filterMap]
  show (w.trace ++ (found w ds ++ es)).filterMap _ = _
  rw [List.filterMap_append, List.filterMap_append, found, World.filterMap_progress,
    List.nil_append]

/-- **One request after the other.** Either all attempts are answered, and the result is the source
with their comments; or the attempts `before` one are answered, that one stops, and the run ends
with its failure. -/
theorem annotate_asks_in_turn (client : Client) (u : SourceUnit) (ds : List Declaration)
    (template : PromptTemplate) (ending : Text) (w : World) :
    let out := Action.exec (annotate client u (some ds) template ending) w
    (∃ rs cs, AnsweredInTurn client template u.source w.outcome ds rs cs ∧
      rs.length = ds.length ∧
      out.1 = (insertComments u.source ds ending (cs.map .ok)).1 ∧
      out.2.trace = w.trace ++ (found w ds ++ exchanges w ds rs) ∧
      out.2.requests = w.requests ++ rs) ∨
    ∃ before d later rs cs e left, ds = before ++ d :: later ∧
      AnsweredInTurn client template u.source w.outcome before rs cs ∧
      Stops client template u.source w (w.outcome before.length) d e left ∧
      out.1 = .error e ∧
      out.2.trace = w.trace ++ (found w ds ++ exchanges w before rs ++ left) ∧
      out.2.requests = w.requests ++ (rs ++ left.filterMap Event.request?) := by
  intro out
  rcases answeredInTurn_or_stops client template u.source w w.outcome ds with
    ⟨rs, cs, h⟩ | ⟨before, d, later, rs, cs, e, left, rfl, h, hs⟩
  · have hout : out = _ := exec_annotate_answered ending h
    refine .inl ⟨rs, cs, h, h.length_requests, ?_, ?_, ?_⟩
    · rw [hout, Insertion.insertComments_eq_splice h.inside h.length_comments]
    · rw [hout]
      rfl
    · rw [hout, requests_advance, filterMap_exchanges h]
  · obtain ⟨n, hrun⟩ := exec_annotate_stops later ending h hs
    have hout : out = _ := hrun
    refine .inr ⟨before, d, later, rs, cs, e, left, rfl, h, hs, ?_, ?_, ?_⟩
    · rw [hout]
    · rw [hout]
      rfl
    · rw [hout, List.append_assoc, requests_advance, List.filterMap_append,
        filterMap_exchanges h]

end Generation

end DartComments
