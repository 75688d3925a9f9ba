import DartComments.Proofs.Command.Course
import DartComments.Proofs.Comment.Twins

/-!
# Two runs side by side

Two runs of the command that are given the same but for the key and the wish for progress go the
same way (`Course.twin`): they end alike, leave the same disk, tell the same `lines` of progress,
report the same and send the same requests, each under its own key. Whether the lines are printed is
for the verbosity of each run to say; `Recital` tells which lines they are.
-/

namespace DartComments

namespace Command

/-- Two worlds in which a run finds the same, whatever has been told before. -/
structure SameStart (w w' : World) : Prop where
  outcomes : w'.outcomes = w.outcomes
  cwd : w'.cwd = w.cwd
  disk : w'.disk = w.disk

theorem SameStart.outcome {w w' : World} (h : SameStart w w') : w'.outcome = w.outcome := by
  funext n
  rw [World.outcome, World.outcome, h.outcomes]

theorem SameStart.log {w w' : World} (h : SameStart w w') (es es' : List Event) :
    SameStart (w.log es) (w'.log es') :=
  ⟨h.outcomes, h.cwd, h.disk⟩

/-- Two runs from such worlds end alike, and the same is told of both. -/
structure Twins (c c' : Client) (w w' : World) (out out' : Except Failure Status × World)
    (lines : List Text) (report : Text) (rs : List Request) : Prop where
  result : out'.1 = out.1
  disk : out'.2.disk = out.2.disk
  signed : ∀ r ∈ rs, c.sign r = r
  told : w.Told out.2 lines report rs
  told' : w'.Told out'.2 lines report (rs.map c'.sign)

theorem Twins.after {c c' : Client} {w w' : World} {out out' : Except Failure Status × World}
    {lines : List Text} {report : Text} {rs : List Request} (t : Text)
    (h : Twins c c' (w.log (w.progress t)) (w'.log (w'.progress t)) out out' lines report rs) :
    Twins c c' w w' out out' (t :: lines) report rs :=
  ⟨h.result, h.disk, h.signed, h.told.after (.progress w t), h.told'.after (.progress w' t)⟩

/-- The line of progress that tells of the output. -/
def writtenLine (dst : Path) : Text := "Updated source written to " ++ dst.text

section

variable (c : Client) (template : PromptTemplate) (u : SourceUnit) (ds : List Declaration)
  (dst : Path) (o : Nat → Outcome)

/-- The lines of progress from the declarations on: their number, one line for each that is
attempted, and one more when the run ends well. -/
inductive Recital : Except Failure Status → List Text → Prop
  | unfinished {r : Except Failure Status} {tried : List Declaration} : r ≠ .ok .success →
      Generation.Attempted c template u.source o ds tried →
      Recital r (Generation.foundLine ds :: tried.map Generation.lookupLine)
  | finished {rs : List Request} {cs : List Text} :
      Generation.AnsweredInTurn c template u.source o ds rs cs →
      Recital (.ok .success)
        (Generation.foundLine ds :: ds.map Generation.lookupLine ++ [writtenLine dst])

end

variable {c c' : Client} {template : PromptTemplate} {u : SourceUnit} {ds : List Declaration}
  {src dst : Path} {w w' : World} {out : Except Failure Status × World}

theorem Completion.twin (h : Completion c template u ds dst w out) (hc : c.Alike c')
    (hw : SameStart w w') :
    ∃ out' lines rs, Completion c' template u ds dst w' out' ∧
      Twins c c' w w' out out' lines [] rs ∧
      Recital c template u ds dst w.outcome out.1 lines := by
  have ho := hw.outcome
  cases h with
  | stopped hrun =>
    obtain ⟨before, d, later, rs, cs, left, n, rfl, ha, hs, rfl⟩ := stops_of_exec_annotate hrun
    obtain ⟨left', rs', hs', hsigned, htells, htells'⟩ := hs.twin hc w'
    have ha' := ha.sign hc
    rw [← ho] at ha' hs'
    obtain ⟨n', hrun'⟩ := Generation.exec_annotate_stops later _ ha' hs'
    refine ⟨_, _, rs ++ rs', .stopped hrun', ⟨rfl, hw.disk, ?_,
      ⟨_, rfl, (ha.tells_found w _).append htells⟩, ⟨_, rfl, ?_⟩⟩, ?_⟩
    · exact List.forall_mem_append.mpr ⟨ha.signed, hsigned⟩
    · rw [List.map_append]
      exact (ha'.tells_found w' _).append htells'
    · rw [List.cons_append, ← List.map_append]
      exact .unfinished (by simp) (.stopped ha hs.not_answered)
  | @unwritable rs cs e ha he =>
    have ha' := ha.sign hc
    rw [← ho] at ha'
    exact ⟨_, _, rs, .unwritable ha' he, ⟨rfl, hw.disk, ha.signed, ⟨_, rfl, ha.tells_found w ds⟩,
      ⟨_, rfl, ha'.tells_found w' ds⟩⟩, .unfinished (by simp) (.all ha)⟩
  | @unsaved rs cs bytes e ha he hdisk =>
    have ha' := ha.sign hc
    rw [← ho] at ha'
    rw [← hw.disk, ← hw.cwd] at hdisk
    exact ⟨_, _, rs, .unsaved ha' he hdisk, ⟨rfl, hw.disk, ha.signed,
      ⟨_, rfl, ha.tells_found w ds⟩, ⟨_, rfl, ha'.tells_found w' ds⟩⟩,
      .unfinished (by simp) (.all ha)⟩
  | @saved rs cs bytes disk ha he hdisk =>
    have ha' := ha.sign hc
    rw [← ho] at ha'
    rw [← hw.disk, ← hw.cwd] at hdisk
    have hsaved : ∀ v : World, Tells v.verbosity.isTruthy
        (.saved dst bytes :: v.progress (writtenLine dst)) [writtenLine dst] [] [] :=
      fun v => (Tells.saved_one dst bytes).append (.progress v _)
    refine ⟨_, _, rs, .saved ha' he hdisk, ⟨rfl, rfl, ha.signed, ⟨_, List.append_assoc _ _ _, ?_⟩,
      ⟨_, List.append_assoc _ _ _, ?_⟩⟩, .finished ha⟩
    · have htells := (ha.tells_found w ds).append (hsaved w)
      rw [List.append_nil rs] at htells
      exact htells
    · have htells := (ha'.tells_found w' ds).append (hsaved w')
      rw [List.append_nil (rs.map c'.sign)] at htells
      exact htells

/-- The line of progress that tells of the source. -/
def loadingLine (src : Path) : Text := "Loading source file '" ++ src.text ++ "'..."

/-- The lines of progress of one file. -/
inductive FileRecital (parser : Parser) (c : Client) (template : PromptTemplate) (src dst : Path)
    (w : World) (r : Except Failure Status) : List Text → Prop
  | unlocated : r ≠ .ok .success → (∀ u ds, ¬ Located parser w src u ds) →
      FileRecital parser c template src dst w r [loadingLine src]
  | located {u : SourceUnit} {ds : List Declaration} {lines : List Text} :
      Located parser w src u ds → Recital c template u ds dst w.outcome r lines →
      FileRecital parser c template src dst w r (loadingLine src :: lines)

theorem FileCourse.twin {parser : Parser} (h : FileCourse parser c src dst template w out)
    (hc : c.Alike c') (hw : SameStart w w') :
    ∃ out' lines report rs, FileCourse parser c' src dst template w' out' ∧
      Twins c c' w w' out out' lines report rs ∧
      FileRecital parser c template src dst w out.1 lines := by
  have hdisk := hw.disk
  have hcwd := hw.cwd
  cases h with
  | @untold e hf =>
    refine ⟨_, _, [], [], .untold (e := e) ?_, Twins.after (loadingLine src)
      ⟨rfl, hdisk, by simp, World.told_self _, World.told_self _⟩,
      .unlocated (by simp) fun u ds hl => ?_⟩
    · rw [hdisk, hcwd, hf]
    · cases hf.symm.trans hl.isFile
  | absent hf =>
    refine ⟨_, _, _, [], .absent ?_, Twins.after (loadingLine src)
      ⟨rfl, hdisk, by simp, World.told_reported _ _, World.told_reported _ _⟩,
      .unlocated (by simp) fun u ds hl => ?_⟩
    · rw [hdisk, hcwd, hf]
    · cases hf.symm.trans hl.isFile
  | @unread e hf ha =>
    refine ⟨_, _, [], [], .unread (e := e) ?_ ?_, Twins.after (loadingLine src)
      ⟨rfl, hdisk, by simp, World.told_self _, World.told_self _⟩,
      .unlocated (by simp) fun u ds hl => ?_⟩
    · rw [hdisk, hcwd, hf]
    · rw [hdisk, hcwd, ha]
    · cases ha.symm.trans hl.analysed
  | empty hf ha =>
    refine ⟨_, _, _, [], .empty ?_ ?_, Twins.after (loadingLine src)
      ⟨rfl, hdisk, by simp, World.told_reported _ _, World.told_reported _ _⟩,
      .unlocated (by simp) fun u ds hl => ?_⟩
    · rw [hdisk, hcwd, hf]
    · rw [hdisk, hcwd, ha]
    · cases ha.symm.trans hl.analysed
  | @located u ds _ hl hcompletion =>
    obtain ⟨out', lines, rs, hcompletion', htwins, hrecital⟩ :=
      hcompletion.twin hc (hw.log _ _)
    refine ⟨out', _, [], rs, .located ⟨?_, ?_⟩ hcompletion', htwins.after _, .located hl hrecital⟩
    · rw [hdisk, hcwd, hl.isFile]
    · rw [hdisk, hcwd, hl.analysed]

theorem Recital.of_not_success {o : Nat → Outcome} {r r' : Except Failure Status}
    {lines : List Text} (h : Recital c template u ds dst o r lines) (hr : r ≠ .ok .success)
    (hr' : r' ≠ .ok .success) : Recital c template u ds dst o r' lines := by
  cases h with
  | unfinished _ ht => exact .unfinished hr' ht
  | finished _ => exact absurd rfl hr

/-- A run that does not end well tells the same however it ends, and wherever it started. -/
theorem FileRecital.of_not_success {parser : Parser} {r r' : Except Failure Status}
    {lines : List Text} (h : FileRecital parser c template src dst w r lines)
    (hr : r ≠ .ok .success) (hr' : r' ≠ .ok .success) :
    FileRecital parser c template src dst w r' lines := by
  cases h with
  | unlocated _ hn => exact .unlocated hr' hn
  | located hl hrecital => exact .located hl (hrecital.of_not_success hr hr')

theorem FileRecital.of_sameStart {parser : Parser} {r : Except Failure Status} {lines : List Text}
    (h : FileRecital parser c template src dst w r lines) (hw : SameStart w w') :
    FileRecital parser c template src dst w' r lines := by
  have hdisk := hw.disk
  have hcwd := hw.cwd
  cases h with
  | unlocated hr hn =>
    refine .unlocated hr fun u ds hl => hn u ds ⟨?_, ?_⟩
    · rw [← hdisk, ← hcwd, hl.isFile]
    · rw [← hdisk, ← hcwd, hl.analysed]
  | located hl hrecital =>
    refine .located ⟨?_, ?_⟩ (hw.outcome ▸ hrecital)
    · rw [hdisk, hcwd, hl.isFile]
    · rw [hdisk, hcwd, hl.analysed]

/-! ## The whole command -/

end Command

/-- A text of ASCII characters only. -/
def Text.IsAscii (t : Text) : Prop := ∀ c ∈ t, c.isAscii = true

/-- The same request, sent with one key and with another. -/
structure Request.Counterpart (key key' : Text) (r r' : Request) : Prop where
  url : r'.url = r.url
  timeout : r'.timeout = r.timeout
  body : r'.body = r.body
  authorization : r.authorization = Client.credential key r.url
  authorization' : r'.authorization = Client.credential key' r'.url

theorem Client.counterpart_sign {c c' : Client} {rs : List Request} (h : ∀ r ∈ rs, c.sign r = r) :
    List.Forall₂ (Request.Counterpart c.key c'.key) rs (rs.map c'.sign) := by
  induction rs with
  | nil => exact .nil
  | cons r rs ih =>
    rw [List.forall_mem_cons] at h
    have hauth : r.authorization = c.authorization r.url := by
      rw [← congrArg Request.authorization h.1]
      rfl
    exact .cons ⟨rfl, rfl, rfl, hauth.trans (c.authorization_eq r.url),
      c'.authorization_eq r.url⟩ (ih h.2)

theorem Client.new_of_isAscii {key : Text} (h : key.IsAscii) (settings : Settings) :
    Client.new key settings = .ok { key, settings } := by
  cases hn : Client.new key settings with
  | error e =>
    obtain ⟨c, hc, hascii⟩ := Client.new_error_iff.mp ⟨e, hn⟩
    rw [h c hc] at hascii
    cases hascii
  | ok client => rw [Command.settings_of_new hn]

namespace Command

/-- The first argument. -/
def Invocation.key (i : Invocation) : Text := i.arguments.headD []

/-- What is printed before anything else. -/
def Invocation.opening (i : Invocation) : Text :=
  if i.arguments.length = 2 then warning else usage

/-- Is progress wanted? -/
def Invocation.verbose (i : Invocation) : Bool := ! Settings.quietRequested i.environment

/-- Two invocations that are the same but for the wish for progress, and for the key when both keys
are ASCII. -/
structure Counterpart (i i' : Invocation) : Prop where
  arguments : i'.arguments = i.arguments ∨ ∃ key key' rest, i.arguments = key :: rest ∧
    i'.arguments = key' :: rest ∧ key.IsAscii ∧ key'.IsAscii
  input : i'.input = i.input
  settings : Settings.ofEnvironment i'.environment = Settings.ofEnvironment i.environment

/-- What a whole run shows: its opening, lines of progress when they are wanted, reports and
requests. -/
structure Shows (i : Invocation) (w v : World) (opening : Text) (lines : List Text)
    (report : Text) (rs : List Request) : Prop where
  stdout : v.stdout =
    w.stdout ++ opening.asLine ++ if i.verbose then lines.flatMap Text.asLine else []
  stderr : v.stderr = w.stderr ++ report
  requests : v.requests = w.requests ++ rs

/-- The lines of progress of a run: none unless it gets as far as to have a client. -/
inductive RunRecital (parser : Parser) (i : Invocation) (w : World) (r : Except Failure Status) :
    List Text → Prop
  | unstarted : (∀ key source client, ¬ Started i key source client) →
      RunRecital parser i w r []
  | started {key source : Text} {client : Client} {lines : List Text} :
      Started i key source client →
      FileRecital parser client .standard (.ofText source) (outputPath w) w r lines →
      RunRecital parser i w r lines

section

variable {parser : Parser} {i i' : Invocation} {key source : Text} {settings : Settings}

/-- A run that ends with its opening shows nothing else. -/
theorem shows_opening (i : Invocation) (w : World) (opening : Text) :
    Shows i w (w.log [.printed opening.asLine]) opening [] [] [] := by
  refine ⟨?_, ?_, ?_⟩
  · rw [World.stdout_eq_flatMap, World.stdout_eq_flatMap, World.log, List.flatMap_append]
    cases i.verbose <;> simp [Event.print]
  · rw [World.stderr_log]
    rfl
  · rw [World.requests_log]
    rfl

/-- What is told after the user has agreed is shown after the warning. -/
theorem shows_of_told {v : World} {lines : List Text} {report : Text} {rs : List Request}
    (h : (consented i w).Told v lines report rs) : Shows i w v warning lines report rs := by
  obtain ⟨es, htrace, htells⟩ := h
  have htrace : v.trace = w.trace ++ (.printed warning.asLine :: es) := by
    rw [htrace]
    exact List.append_assoc _ _ _
  refine ⟨?_, ?_, ?_⟩
  · rw [World.stdout_eq_flatMap, World.stdout_eq_flatMap, htrace, List.flatMap_append,
      List.flatMap_cons, htells.printed, List.append_assoc]
    rfl
  · rw [World.stderr_eq_flatMap, World.stderr_eq_flatMap, htrace, List.flatMap_append,
      List.flatMap_cons, htells.reported]
    rfl
  · rw [World.requests_eq_filterMap, World.requests_eq_filterMap, htrace, List.filterMap_append,
      List.filterMap_cons_none rfl, htells.sent]

theorem Counterpart.length_eq (h : Counterpart i i') :
    i'.arguments.length = i.arguments.length := by
  rcases h.arguments with hargs | ⟨key, key', rest, hargs, hargs', -⟩
  · rw [hargs]
  · rw [hargs, hargs', List.length_cons, List.length_cons]

/-- What one user has agreed to the other has too, with a key that does as well. -/
theorem Counterpart.agreed (h : Counterpart i i') (ha : Agreed i key source settings) :
    ∃ key', Agreed i' key' source settings ∧ (key' = key ∨ key.IsAscii ∧ key'.IsAscii) := by
  have hconfirmed : (confirm i'.input).1 = true := by rw [h.input, ha.confirmed]
  have hsettings := h.settings.trans ha.settings
  rcases h.arguments with hargs | ⟨k, k', rest, hargs, hargs', hk, hk'⟩
  · exact ⟨key, ⟨hargs.trans ha.arguments, hconfirmed, hsettings⟩, .inl rfl⟩
  · cases hargs.symm.trans ha.arguments
    exact ⟨k', ⟨hargs', hconfirmed, hsettings⟩, .inr ⟨hk, hk'⟩⟩

theorem Counterpart.started {client : Client} (h : Counterpart i i')
    (hs : Started i key source client) :
    ∃ key' client', Started i' key' source client' ∧ client.Alike client' := by
  obtain ⟨key', ha, hkey⟩ := h.agreed hs.agreed
  have hclient := settings_of_new hs.opened
  refine ⟨key', { key := key', settings := client.settings }, ⟨ha, hs.named, ?_⟩, ⟨rfl, ?_⟩⟩
  · rcases hkey with rfl | ⟨-, hascii⟩
    · rw [hs.opened, ← hclient]
    · exact Client.new_of_isAscii hascii _
  · rw [hclient]

theorem Started.key_eq {client : Client} (h : Started i key source client) :
    client.key = i.key := by
  rw [settings_of_new h.opened, Invocation.key, h.agreed.arguments]
  rfl

theorem not_started_of_length_ne (h : i.arguments.length ≠ 2) {client : Client} :
    ¬ Started i key source client := by
  intro hs
  rw [hs.agreed.arguments] at h
  exact h rfl

theorem sameStart_consented (i i' : Invocation) (w : World) :
    SameStart (consented i w) (consented i' w) :=
  ⟨rfl, rfl, rfl⟩

theorem opening_of_length (h : i.arguments.length = 2) : i.opening = warning := if_pos h

/-- **The same course twice.** A run of a counterpart ends alike, leaves the same disk and shows the
same, but that each shows the lines of progress only if it is verbose and sends the requests under
its own key. -/
theorem Course.twin (h : Course parser i w out) (hi : Counterpart i i') :
    ∃ out' lines report rs rs', Course parser i' w out' ∧ out'.1 = out.1 ∧
      out'.2.disk = out.2.disk ∧ Shows i w out.2 i.opening lines report rs ∧
      Shows i' w out'.2 i.opening lines report rs' ∧
      List.Forall₂ (Request.Counterpart i.key i'.key) rs rs' ∧
      RunRecital parser i w out.1 lines := by
  have hlength := hi.length_eq
  cases h with
  | usage hn =>
    have hopening : i.opening = Command.usage := if_neg hn
    rw [hopening]
    exact ⟨_, [], [], [], [], .usage (hlength ▸ hn), rfl, rfl, shows_opening i w Command.usage,
      shows_opening i' w Command.usage, .nil, .unstarted fun _ _ _ => not_started_of_length_ne hn⟩
  | declined hn hc =>
    have hc' : (confirm i'.input).1 = false := by rw [hi.input, hc]
    rw [opening_of_length hn]
    refine ⟨_, [], [], [], [], .declined (hlength.trans hn) hc', rfl, rfl,
      shows_opening i w warning, shows_opening i' w warning, .nil, .unstarted ?_⟩
    intro key source client hs
    cases hc.symm.trans hs.agreed.confirmed
  | @misconfigured e hn hc he =>
    have hc' : (confirm i'.input).1 = true := by rw [hi.input, hc]
    rw [opening_of_length hn]
    refine ⟨_, [], _, [], [], .misconfigured (hlength.trans hn) hc' (hi.settings.trans he), rfl,
      rfl, shows_of_told (World.told_reported _ _), shows_of_told (World.told_reported _ _), .nil,
      .unstarted ?_⟩
    intro key source client hs
    cases he.symm.trans hs.agreed.settings
  | sourceless ha =>
    obtain ⟨key', ha', -⟩ := hi.agreed ha
    rw [opening_of_length (by rw [ha.arguments]; rfl)]
    refine ⟨_, [], [], [], [], .sourceless ha', rfl, rfl, shows_of_told (World.told_self _),
      shows_of_told (World.told_self _), .nil, .unstarted ?_⟩
    intro key source client hs
    cases ha.arguments.symm.trans hs.agreed.arguments
    exact hs.named rfl
  | @unopened key source settings e ha hs he =>
    obtain ⟨key', ha', hkey⟩ := hi.agreed ha
    have he' : Client.new key' settings = .error e := by
      rcases hkey with rfl | ⟨hascii, -⟩
      · exact he
      · rw [Client.new_of_isAscii hascii] at he
        cases he
    rw [opening_of_length (by rw [ha.arguments]; rfl)]
    refine ⟨_, [], [], [], [], .unopened ha' hs he', rfl, rfl, shows_of_told (World.told_self _),
      shows_of_told (World.told_self _), .nil, .unstarted ?_⟩
    intro k s client hstarted
    cases ha.arguments.symm.trans hstarted.agreed.arguments
    cases ha.settings.symm.trans hstarted.agreed.settings
    cases he.symm.trans hstarted.opened
  | @passed key source client r v hs hf hp =>
    obtain ⟨key', client', hs', halike⟩ := hi.started hs
    obtain ⟨⟨r', v'⟩, lines, report, rs, hf', htwins, hrecital⟩ :=
      hf.twin halike (sameStart_consented i i' w)
    have hr : r' = r := htwins.result
    subst hr
    rw [opening_of_length (by rw [hs.agreed.arguments]; rfl), ← hs.key_eq, ← hs'.key_eq]
    exact ⟨_, lines, report, rs, _, .passed hs' hf' hp, rfl, htwins.disk,
      shows_of_told htwins.told, shows_of_told htwins.told', Client.counterpart_sign htwins.signed,
      .started hs (hrecital.of_sameStart ⟨rfl, rfl, rfl⟩)⟩
  | @reported key source client e v hs hf hp =>
    obtain ⟨key', client', hs', halike⟩ := hi.started hs
    obtain ⟨⟨r', v'⟩, lines, report, rs, hf', htwins, hrecital⟩ :=
      hf.twin halike (sameStart_consented i i' w)
    have hr : r' = .error e := htwins.result
    subst hr
    rw [opening_of_length (by rw [hs.agreed.arguments]; rfl), ← hs.key_eq, ← hs'.key_eq]
    have hfailed : FileRecital parser client .standard (.ofText source) (outputPath w) w
        (.error e) lines := hrecital.of_sameStart ⟨rfl, rfl, rfl⟩
    have hreported : FileRecital parser client .standard (.ofText source) (outputPath w) w
        (.ok .failure) lines := hfailed.of_not_success (by simp) (by simp)
    exact ⟨_, lines, _, rs, _, .reported hs' hf' hp, rfl, htwins.disk,
      shows_of_told (htwins.told.report _), shows_of_told (htwins.told'.report _),
      Client.counterpart_sign htwins.signed, .started hs hreported⟩

end

end Command

end DartComments
