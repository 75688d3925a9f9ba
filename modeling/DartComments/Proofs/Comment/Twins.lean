import DartComments.Proofs.Backend.Request
import DartComments.Proofs.Run.Told

/-!
# Attempts under two keys

Two clients with the same settings make the same requests, each authorized in its own way
(`Client.Alike.request`), and take the same from a reply (`Client.Alike.receive`). So the attempts
that are answered for one are answered for the other, the one that stops the run stops it for both,
and the same lines of progress are told on the way.
-/

namespace DartComments

namespace Client

/-- How a request to a URL is authorized with a key. -/
def credential (key : Text) (u : Url) : Text :=
  if u.credentials = ([], []) then bearer key else basic u.credentials.1 u.credentials.2

theorem authorization_eq (c : Client) (u : Url) : c.authorization u = credential c.key u := by
  rw [authorization, credential]
  obtain ⟨name, password⟩ := u.credentials
  cases name <;> cases password <;> simp

/-- A request as another client sends it. -/
def sign (c : Client) (r : Request) : Request := { r with authorization := c.authorization r.url }

/-- Two clients that differ in their keys alone. -/
structure Alike (c c' : Client) : Prop where
  settings : c'.settings = c.settings
  closed : c'.closed = c.closed

variable {c c' : Client}

theorem Alike.request (h : c.Alike c') (messages : Json) :
    c'.request messages = (c.request messages).map c'.sign := by
  rw [Client.request, Client.request, h.settings]
  cases (requestBody c.settings messages).mapError Failure.flatten with
  | error e => rfl
  | ok body =>
    cases ((Url.ofText c.settings.endpoint).bind Url.target).mapError Failure.url with
    | error e => rfl
    | ok url =>
      dsimp only [bind, Except.bind]
      cases body.write.mapError Failure.unwritable with
      | error e => rfl
      | ok t =>
        dsimp only
        cases (Utf8.encode t).mapError Failure.unencodable <;> rfl

theorem Alike.receive (h : c.Alike c') (r : Request) (o : Outcome) :
    c'.receive (c'.sign r) o = c.receive r o := by
  rw [Client.receive.eq_def, Client.receive.eq_def, h.settings]
  rfl

end Client

namespace Generation

variable {c c' : Client} {template : PromptTemplate} {source : Text} {o : Nat → Outcome}
  {d : Declaration} {ds : List Declaration} {rs : List Request} {cs : List Text}

theorem ask_alike (h : c.Alike c') (template : PromptTemplate) (source : Text) (d : Declaration) :
    ask c' template source d = (ask c template source d).map c'.sign := by
  rw [ask, ask]
  cases (Prompt.build template d.name (d.sourceText source)).mapError Failure.template with
  | error e => rfl
  | ok messages =>
    show (c'.request _ >>= _) = (c.request _ >>= _).map _
    rw [h.request, h.closed]
    cases c.request (.arr (messages.map Message.toJson)) with
    | error e => rfl
    | ok r =>
      show (if c.closed then _ else _) = (if c.closed then _ else _ : Except _ _).map _
      cases c.closed <;> rfl

/-- A request bears the authorization of its client. -/
theorem sign_of_ask {r : Request} (h : ask c template source d = .ok r) : c.sign r = r := by
  rw [ask] at h
  obtain ⟨messages, -, h⟩ := bind_eq_ok.mp h
  obtain ⟨r', hr, h⟩ := bind_eq_ok.mp h
  split at h
  · cases h
  · cases h
    obtain ⟨-, -, -, -, -, hauth, -⟩ := Client.request_eq_ok.mp hr
    rw [Client.sign, ← hauth]

theorem Answered.sign {o : Outcome} {r : Request} {t : Text}
    (h : Answered c template source o d r t) (hc : c.Alike c') :
    Answered c' template source o d (c'.sign r) t := by
  refine ⟨h.inside, ?_, ?_⟩
  · rw [ask_alike hc, h.asked]
    rfl
  · rw [hc.receive, h.received]

theorem AnsweredInTurn.sign (h : AnsweredInTurn c template source o ds rs cs) (hc : c.Alike c') :
    AnsweredInTurn c' template source o ds (rs.map c'.sign) cs := by
  induction h with
  | nil => exact .nil
  | cons ha _ ih => exact .cons (ha.sign hc) ih

theorem AnsweredInTurn.signed (h : AnsweredInTurn c template source o ds rs cs) :
    ∀ r ∈ rs, c.sign r = r := by
  induction h with
  | nil => simp
  | cons ha _ ih => exact List.forall_mem_cons.mpr ⟨sign_of_ask ha.asked, ih⟩

theorem AnsweredInTurn.tells (h : AnsweredInTurn c template source o ds rs cs) (w : World) :
    Tells w.verbosity.isTruthy (exchanges w ds rs) (ds.map lookupLine) [] rs := by
  induction h with
  | nil => exact .nil
  | @cons o d ds r rs t cs _ _ ih =>
    have hone := (Tells.progress w (lookupLine d)).append (.sent_one r)
    exact hone.append ih

/-- What is told up to the last answer. -/
theorem AnsweredInTurn.tells_found (h : AnsweredInTurn c template source o ds rs cs) (w : World)
    (all : List Declaration) :
    Tells w.verbosity.isTruthy (found w all ++ exchanges w ds rs)
      (foundLine all :: ds.map lookupLine) [] rs :=
  (Tells.progress w (foundLine all)).append (h.tells w)

/-- A declaration is attempted unless its range is found to lie outside the source. -/
def attempt (source : Text) (d : Declaration) : List Declaration :=
  if d.range.stop ≤ source.length then [d] else []

/-- The declarations that are attempted: all when all are answered, or else those before the first
that is not, and that one. -/
inductive Attempted (c : Client) (template : PromptTemplate) (source : Text) (o : Nat → Outcome) :
    List Declaration → List Declaration → Prop
  | all {ds : List Declaration} {rs : List Request} {cs : List Text} :
      AnsweredInTurn c template source o ds rs cs → Attempted c template source o ds ds
  | stopped {before later : List Declaration} {d : Declaration} {rs : List Request}
      {cs : List Text} : AnsweredInTurn c template source o before rs cs →
      (∀ r t, ¬ Answered c template source (o before.length) d r t) →
      Attempted c template source o (before ++ d :: later) (before ++ attempt source d)

/-- What stops is not answered. -/
theorem Stops.not_answered {w : World} {o : Outcome} {e : Failure} {left : List Event}
    (h : Stops c template source w o d e left) (r : Request) (t : Text) :
    ¬ Answered c template source o d r t := by
  intro ha
  cases h with
  | outside hout => exact absurd ha.inside (by omega)
  | unasked _ hask => cases hask.symm.trans ha.asked
  | unanswered _ hask hreceive =>
    cases hask.symm.trans ha.asked
    cases hreceive.symm.trans ha.received

/-- An attempt that stops does so under either key, and the same is told of it. -/
theorem Stops.twin {w : World} {o : Outcome} {e : Failure} {left : List Event}
    (h : Stops c template source w o d e left) (hc : c.Alike c') (w' : World) :
    ∃ left' rs, Stops c' template source w' o d e left' ∧ (∀ r ∈ rs, c.sign r = r) ∧
      Tells w.verbosity.isTruthy left ((attempt source d).map lookupLine) [] rs ∧
      Tells w'.verbosity.isTruthy left' ((attempt source d).map lookupLine) []
        (rs.map c'.sign) := by
  cases h with
  | outside hout =>
    rw [attempt, if_neg (by omega)]
    exact ⟨[], [], .outside hout, by simp, .nil, .nil⟩
  | unasked hin ha =>
    rw [attempt, if_pos hin]
    refine ⟨_, [], .unasked hin ?_, by simp, .progress w _, .progress w' _⟩
    rw [ask_alike hc, ha]
    rfl
  | @unanswered r e hin ha hr =>
    rw [attempt, if_pos hin]
    refine ⟨_, [r], .unanswered (r := c'.sign r) hin ?_ ?_, ?_,
      (Tells.progress w _).append (.sent_one r), (Tells.progress w' _).append (.sent_one _)⟩
    · rw [ask_alike hc, ha]
      rfl
    · rw [hc.receive, hr]
    · simpa using sign_of_ask ha

end Generation

end DartComments
