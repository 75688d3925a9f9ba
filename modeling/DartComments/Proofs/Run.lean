import DartComments.Proofs.Result
import DartComments.World

/-!
# What a run comes to

`Action.exec` of each primitive and of their composition, so that a run can be followed step by
step. What a run adds to its trace is told by `World.log`; a line of progress is one event or none.
-/

namespace DartComments

namespace Action

variable {σ α β ε : Type}

@[simp] theorem exec_pure (a : α) (s : σ) : exec (pure a : Run σ α) s = (.ok a, s) := rfl

@[simp] theorem exec_throw (e : Failure) (s : σ) :
    exec (throw e : Run σ α) s = (.error e, s) := rfl

@[simp] theorem exec_get (s : σ) : exec (get : Run σ σ) s = (.ok s, s) := rfl

@[simp] theorem exec_set (s t : σ) : exec (set t : Run σ PUnit) s = (.ok ⟨⟩, t) := rfl

@[simp] theorem exec_modify (f : σ → σ) (s : σ) :
    exec (modify f : Run σ PUnit) s = (.ok ⟨⟩, f s) := rfl

/-- A chain goes on with the result and the state of its first link, or ends with its failure. -/
theorem exec_bind (x : Run σ α) (f : α → Run σ β) (s : σ) :
    exec (x >>= f) s = match exec x s with
      | (.ok a, t) => exec (f a) t
      | (.error e, t) => (.error e, t) := by
  show (ExceptT.bindCont (fun a => f a) (exec x s).1) (exec x s).2 = _
  generalize exec x s = r
  obtain ⟨r, t⟩ := r
  cases r <;> rfl

theorem exec_bind_ok {x : Run σ α} {s t : σ} {a : α} (h : exec x s = (.ok a, t))
    (f : α → Run σ β) : exec (x >>= f) s = exec (f a) t := by
  rw [exec_bind, h]

theorem exec_bind_error {x : Run σ α} {s t : σ} {e : Failure} (h : exec x s = (.error e, t))
    (f : α → Run σ β) : exec (x >>= f) s = (.error e, t) := by
  rw [exec_bind, h]

@[simp] theorem exec_ofExcept (fail : ε → Failure) (r : Except ε α) (s : σ) :
    exec (ofExcept fail r) s = (r.mapError fail, s) := by
  cases r <;> rfl

theorem exec_ofExcept_ok (fail : ε → Failure) (a : α) (s : σ) :
    exec (ofExcept fail (.ok a)) s = (.ok a, s) := rfl

theorem exec_ofExcept_error (fail : ε → Failure) (e : ε) (s : σ) :
    exec (ofExcept fail (.error e) : Run σ α) s = (.error (fail e), s) := rfl

/-- A handler takes over with the failure, in the state that has been reached. -/
theorem exec_tryCatch (x : Run σ α) (handler : Failure → Run σ α) (s : σ) :
    exec (tryCatch x handler) s = match exec x s with
      | (.ok a, t) => (.ok a, t)
      | (.error e, t) => exec (handler e) t := by
  show ExceptT.tryCatch x handler s = _
  rw [ExceptT.tryCatch, ExceptT.mk]
  show StateT.bind x _ s = _
  rw [StateT.bind]
  cases h : exec x s with
  | mk r t =>
    have hx : (x : StateM σ (Except Failure α)) s = (r, t) := h
    rw [hx]
    cases r <;> rfl

end Action

/-- The request that an event sends. -/
def Event.request? : Event → Option Request
  | .sent r => some r
  | _ => none

/-- What an event reports. -/
def Event.report : Event → Text
  | .reported t => t
  | _ => []

namespace World

/-- The world after some more events. -/
def log (w : World) (es : List Event) : World := { w with trace := w.trace ++ es }

/-- The world after some more events, with the first `n` outcomes taken. -/
def advance (w : World) (es : List Event) (n : Nat) : World :=
  { w.log es with outcomes := w.outcomes.drop n }

/-- The events of a line of progress: one, or none when progress is not wanted. -/
def progress (w : World) (t : Text) : List Event :=
  if w.verbosity.isTruthy then [.printed (t ++ "\n")] else []

/-- What becomes of the request after `i` others. -/
def outcome (w : World) (i : Nat) : Outcome := w.outcomes.getD i (.failure "no reply left")

@[simp] theorem log_disk (w : World) (es : List Event) : (w.log es).disk = w.disk := rfl

@[simp] theorem log_cwd (w : World) (es : List Event) : (w.log es).cwd = w.cwd := rfl

@[simp] theorem log_nil (w : World) : w.log [] = w := by
  simp [log]

theorem log_log (w : World) (es es' : List Event) : (w.log es).log es' = w.log (es ++ es') := by
  simp [log]

theorem advance_zero (w : World) (es : List Event) : w.advance es 0 = w.log es := rfl

theorem advance_advance (w : World) (es es' : List Event) (n n' : Nat) :
    (w.advance es n).advance es' n' = w.advance (es ++ es') (n + n') := by
  simp [advance, log]

theorem outcome_advance (w : World) (es : List Event) (n i : Nat) :
    (w.advance es n).outcome i = w.outcome (n + i) := by
  show (w.outcomes.drop n).getD i _ = w.outcomes.getD (n + i) _
  rw [List.getD_eq_getElem?_getD, List.getD_eq_getElem?_getD, List.getElem?_drop]

theorem requests_eq_filterMap (w : World) : w.requests = w.trace.filterMap Event.request? := by
  refine congrArg (List.filterMap · w.trace) (funext fun e => ?_)
  cases e <;> rfl

theorem filterMap_progress (w : World) (t : Text) :
    (w.progress t).filterMap Event.request? = [] := by
  rw [progress]
  split <;> rfl

theorem requests_log (w : World) (es : List Event) :
    (w.log es).requests = w.requests ++ es.filterMap Event.request? := by
  rw [requests_eq_filterMap, requests_eq_filterMap, log, List.filterMap_append]

theorem requests_log_single (w : World) {e : Event} (h : e.request? = none) :
    (w.log [e]).requests = w.requests := by
  rw [requests_log, List.filterMap_cons_none h, List.filterMap_nil, List.append_nil]

theorem stderr_eq_flatMap (w : World) : w.stderr = w.trace.flatMap Event.report := by
  refine congrArg (List.flatMap · w.trace) (funext fun e => ?_)
  cases e <;> rfl

theorem stderr_log (w : World) (es : List Event) :
    (w.log es).stderr = w.stderr ++ es.flatMap Event.report := by
  rw [stderr_eq_flatMap, stderr_eq_flatMap, log, List.flatMap_append]

theorem stderr_advance (w : World) (es : List Event) (n : Nat) :
    (w.advance es n).stderr = w.stderr ++ es.flatMap Event.report :=
  w.stderr_log es

theorem flatMap_progress (w : World) (t : Text) : (w.progress t).flatMap Event.report = [] := by
  rw [progress]
  split <;> rfl

end World

namespace Action

theorem exec_emit (e : Event) (w : World) : exec (emit e) w = (.ok ⟨⟩, w.log [e]) := rfl

theorem exec_echo (t : Text) (w : World) : exec (echo t) w = (.ok ⟨⟩, w.log (w.progress t)) := by
  rw [echo, exec_bind_ok (exec_get w), World.progress]
  split
  · rfl
  · simp

theorem exec_send (r : Request) (w : World) : exec (send r) w =
    (.ok (w.outcome 0), w.advance [.sent r] 1) := by
  rw [send, exec_bind_ok (exec_emit _ w), exec_bind_ok (exec_get _)]
  obtain ⟨verbosity, outcomes, cwd, disk, trace⟩ := w
  cases outcomes <;> rfl

theorem exec_writeFile {w : World} {p : Path} {content : Bytes} {disk : Disk}
    (h : w.disk.write w.cwd p content = .ok disk) : exec (writeFile p content) w =
      (.ok ⟨⟩, { w with disk }.log [.saved p content]) := by
  rw [writeFile, exec_bind_ok (exec_get w), h]
  rfl

theorem exec_writeFile_error {w : World} {p : Path} {content : Bytes} {e : DiskError}
    (h : w.disk.write w.cwd p content = .error e) :
    exec (writeFile p content) w = (.error (.disk e), w) := by
  rw [writeFile, exec_bind_ok (exec_get w), h]
  rfl

end Action

end DartComments
