import DartComments.Proofs.Command.Consent
import DartComments.Proofs.Command.Twins
import DartComments.Proofs.Settings

/-!
# Quiet runs

An environment asks for silence with one variable, which no setting is read from. So a quiet run is
the counterpart of one that tells its progress (`Counterpart`), and all that it leaves out are the
lines of progress.
-/

namespace DartComments

/-- The variable that asks for silence. -/
def Settings.quietVariable : Text := "DARTDOC_QUIET"

/-- Two environments that differ in that variable alone. -/
def Settings.SameButQuiet (env env' : Environment) : Prop :=
  ∀ name, name ≠ quietVariable → env'.lookup name = env.lookup name

namespace Settings

variable {env env' : Environment}

/-- Silence is not a setting. -/
theorem SameButQuiet.ofEnvironment (h : SameButQuiet env env') :
    ofEnvironment env' = ofEnvironment env := by
  refine ofEnvironment_congr fun v => ?_
  have hname : v.name ≠ quietVariable := by cases v <;> decide
  rw [stripped, h v.name hname, stripped]

end Settings

/-- Requests that are counterparts under one key are the same. -/
theorem Request.Counterpart.eq {key : Text} {r r' : Request} (h : Counterpart key key r r') :
    r = r' := by
  have hauthorization : r'.authorization = r.authorization := by
    rw [h.authorization', h.authorization, h.url]
  obtain ⟨url, authorization, timeout, body⟩ := r
  cases h.url
  cases h.timeout
  cases h.body
  cases hauthorization
  rfl

namespace Command

/-- **Only progress is hidden.** Of two runs that differ in the variable that asks for silence, one
quiet and one not, both end alike, with the same reports, requests and files. The quiet one prints
its opening and nothing else, the other one its opening and then the lines of its recital. -/
theorem quiet_hides_only_progress (parser : Parser) (quiet loud : Invocation) (w : World)
    (harguments : quiet.arguments = loud.arguments) (hinput : quiet.input = loud.input)
    (henvironment : Settings.SameButQuiet loud.environment quiet.environment)
    (hquiet : Settings.quietRequested quiet.environment = true)
    (hloud : Settings.quietRequested loud.environment = false) :
    let q := Action.exec (run parser quiet) w
    let l := Action.exec (run parser loud) w
    q.1 = l.1 ∧ q.2.stderr = l.2.stderr ∧ q.2.requests = l.2.requests ∧ q.2.disk = l.2.disk ∧
      q.2.stdout = w.stdout ++ loud.opening.asLine ∧
      ∃ lines, RunRecital parser loud w l.1 lines ∧
        l.2.stdout = w.stdout ++ loud.opening.asLine ++ lines.flatMap Text.asLine := by
  intro q l
  have hcounterpart : Counterpart loud quiet :=
    ⟨.inl harguments, hinput, henvironment.ofEnvironment⟩
  obtain ⟨out, lines, report, rs, rs', hcourse, hresult, hdisk, hshows, hshows', hrequests,
    hrecital⟩ := (course_exec parser loud w).twin hcounterpart
  have hout : q = out := hcourse.exec
  subst hout
  have hkey : quiet.key = loud.key := by rw [Invocation.key, harguments, Invocation.key]
  rw [hkey] at hrequests
  have hsame : rs = rs' := by
    rw [← List.forall₂_eq_eq_eq]
    exact hrequests.imp fun _ _ h => h.eq
  have hverbose : loud.verbose = true := by rw [Invocation.verbose, hloud]; rfl
  have hverbose' : quiet.verbose = false := by rw [Invocation.verbose, hquiet]; rfl
  refine ⟨hresult, ?_, ?_, hdisk, ?_, lines, hrecital, ?_⟩
  · rw [hshows.stderr, hshows'.stderr]
  · rw [hshows.requests, hshows'.requests, hsame]
  · rw [hshows'.stdout, hverbose']
    exact List.append_nil _
  · rw [hshows.stdout, hverbose, if_pos rfl]

/-- A quiet run on a source in the place of the output prints the warning alone, and succeeds. -/
theorem selfWorld_quiet :
    let quiet : Invocation := ⟨["k", outputName], "y", [(Settings.quietVariable, " Yes")]⟩
    let out := Action.exec (run (fun _ => smallTree) quiet) selfWorld
    out.1 = .ok .success ∧ out.2.stdout = warning.asLine ∧ out.2.requests ≠ [] := by
  intro quiet out
  have henvironment : Settings.SameButQuiet [] [(Settings.quietVariable, " Yes")] := by
    intro name hname
    rw [List.lookup_cons, beq_eq_false_iff_ne.mpr hname]
  obtain ⟨hresult, -, hrequests, -, hstdout, -⟩ := quiet_hides_only_progress (fun _ => smallTree)
    quiet (agreement outputName) selfWorld rfl rfl henvironment (by decide) (by decide)
  obtain ⟨u, hy⟩ := selfWorld_yields
  have hw := Disk.write_eq selfWorld_target (by decide) smallResult
  refine ⟨hresult.trans (hy.exec hw).1, hstdout, ?_⟩
  rw [hrequests]
  exact hy.requests_ne (by simp) hw

end Command

end DartComments
