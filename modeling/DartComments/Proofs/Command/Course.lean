import DartComments.Proofs.Command.Arguments
import DartComments.Proofs.Comment.Generation

/-!
# The course of a run

Every way in which the command can end, each with what it comes to: `Completion` from the moment the
declarations are located, `FileCourse` for one file, `Course` for the whole command. A run takes one
of these ways (`exists_course`) and comes to what is told there (`Course.exec`), so that what is
true of every run can be shown way by way, with no look at how the command is written.

Up to its last steps a run only prints, reports and sends. It is the way `saved` alone that leaves
another disk behind.
-/

namespace DartComments

namespace Command

/-! ## From the declarations on -/

/-- The source of a unit with comments before its declarations. -/
def rewriting (u : SourceUnit) (ds : List Declaration) (cs : List Text) : Text :=
  Insertion.splice u.source 0 (Insertion.pieces (LineEnding.dominant u.source).text ds cs)

/-- What is left to do once the declarations are located. -/
def complete (client : Client) (u : SourceUnit) (ds : List Declaration) (dst : Path)
    (template : PromptTemplate) : Action Status := do
  let result ← annotate client u (some ds) template (LineEnding.dominant u.source).text
  let bytes ← Action.ofExcept .unencodable (Utf8.encodeEscaped result)
  Action.writeFile dst bytes
  Action.echo ("Updated source written to " ++ dst.text)
  return .success

/-- The world after every declaration has been asked about. -/
def asked (w : World) (ds : List Declaration) (rs : List Request) : World :=
  w.advance (Generation.found w ds ++ Generation.exchanges w ds rs) ds.length

section

variable (client : Client) (template : PromptTemplate) (u : SourceUnit) (ds : List Declaration)
  (dst : Path) (w : World)

/-- How the rest can end once the declarations are located. -/
inductive Completion : Except Failure Status × World → Prop
  | stopped {e : Failure} {w' : World} :
      Action.exec (annotate client u (some ds) template (LineEnding.dominant u.source).text) w =
        (.error e, w') →
      Completion (.error e, w')
  | unwritable {rs : List Request} {cs : List Text} {e : Unencodable} :
      Generation.AnsweredInTurn client template u.source w.outcome ds rs cs →
      Utf8.encodeEscaped (rewriting u ds cs) = .error e →
      Completion (.error (.unencodable e), asked w ds rs)
  | unsaved {rs : List Request} {cs : List Text} {bytes : Bytes} {e : DiskError} :
      Generation.AnsweredInTurn client template u.source w.outcome ds rs cs →
      Utf8.encodeEscaped (rewriting u ds cs) = .ok bytes →
      w.disk.write w.cwd dst bytes = .error e →
      Completion (.error (.disk e), asked w ds rs)
  | saved {rs : List Request} {cs : List Text} {bytes : Bytes} {disk : Disk} :
      Generation.AnsweredInTurn client template u.source w.outcome ds rs cs →
      Utf8.encodeEscaped (rewriting u ds cs) = .ok bytes →
      w.disk.write w.cwd dst bytes = .ok disk →
      Completion (.ok .success, { asked w ds rs with disk }.log
        (.saved dst bytes :: w.progress ("Updated source written to " ++ dst.text)))

variable {client template u ds dst w}

/-- Annotating ends with all comments, or with a declaration that stops it. -/
theorem exec_annotate_cases (client : Client) (template : PromptTemplate) (u : SourceUnit)
    (ds : List Declaration) (ending : Text) (w : World) :
    (∃ rs cs, Generation.AnsweredInTurn client template u.source w.outcome ds rs cs) ∨
      ∃ before d later rs cs e left n, ds = before ++ d :: later ∧
        Generation.AnsweredInTurn client template u.source w.outcome before rs cs ∧
        Generation.Stops client template u.source w (w.outcome before.length) d e left ∧
        Action.exec (annotate client u (some ds) template ending) w =
          (.error e, w.advance (Generation.found w ds ++ Generation.exchanges w before rs ++ left)
            n) := by
  rcases Generation.answeredInTurn_or_stops client template u.source w w.outcome ds with
    h | ⟨before, d, later, rs, cs, e, left, rfl, h, hs⟩
  · exact .inl h
  · obtain ⟨n, hrun⟩ := Generation.exec_annotate_stops later ending h hs
    exact .inr ⟨before, d, later, rs, cs, e, left, n, rfl, h, hs, hrun⟩

/-- When annotating fails, a declaration has stopped it. -/
theorem stops_of_exec_annotate {ending : Text} {e : Failure} {w' : World}
    (h : Action.exec (annotate client u (some ds) template ending) w = (.error e, w')) :
    ∃ before d later rs cs left n, ds = before ++ d :: later ∧
      Generation.AnsweredInTurn client template u.source w.outcome before rs cs ∧
      Generation.Stops client template u.source w (w.outcome before.length) d e left ∧
      w' = w.advance (Generation.found w ds ++ Generation.exchanges w before rs ++ left) n := by
  rcases exec_annotate_cases client template u ds ending w with
    ⟨rs, cs, ha⟩ | ⟨before, d, later, rs, cs, e', left, n, hds, ha, hs, hrun⟩
  · rw [Generation.exec_annotate_answered ending ha] at h
    cases h
  · rw [hrun] at h
    cases h
    exact ⟨before, d, later, rs, cs, left, n, hds, ha, hs, rfl⟩

theorem Completion.exec {out : Except Failure Status × World}
    (h : Completion client template u ds dst w out) :
    Action.exec (complete client u ds dst template) w = out := by
  cases h with
  | stopped hrun => exact Action.exec_bind_error hrun _
  | unwritable ha he =>
    rw [complete, Action.exec_bind_ok (Generation.exec_annotate_answered _ ha)]
    rw [rewriting] at he
    rw [he]
    exact Action.exec_bind_error (Action.exec_ofExcept_error _ _ _) _
  | @unsaved rs _ _ _ ha he hw =>
    rw [complete, Action.exec_bind_ok (Generation.exec_annotate_answered _ ha)]
    rw [rewriting] at he
    rw [he]
    refine (Action.exec_bind_ok (Action.exec_ofExcept_ok _ _ _) _).trans ?_
    exact Action.exec_bind_error (Action.exec_writeFile_error (w := asked w ds rs) hw) _
  | @saved rs _ _ _ ha he hw =>
    rw [complete, Action.exec_bind_ok (Generation.exec_annotate_answered _ ha)]
    rw [rewriting] at he
    rw [he]
    refine (Action.exec_bind_ok (Action.exec_ofExcept_ok _ _ _) _).trans ?_
    refine (Action.exec_bind_ok (Action.exec_writeFile (w := asked w ds rs) hw) _).trans ?_
    refine (Action.exec_bind_ok (Action.exec_echo _ _) _).trans ?_
    rw [World.log_log]
    rfl

theorem exists_completion (client : Client) (template : PromptTemplate) (u : SourceUnit)
    (ds : List Declaration) (dst : Path) (w : World) :
    ∃ out, Completion client template u ds dst w out := by
  rcases exec_annotate_cases client template u ds (LineEnding.dominant u.source).text w with
    ⟨rs, cs, ha⟩ | ⟨_, _, _, _, _, _, _, _, -, -, -, hrun⟩
  · cases he : Utf8.encodeEscaped (rewriting u ds cs) with
    | error e => exact ⟨_, .unwritable ha he⟩
    | ok bytes =>
      cases hw : w.disk.write w.cwd dst bytes with
      | error e => exact ⟨_, .unsaved ha he hw⟩
      | ok disk => exact ⟨_, .saved ha he hw⟩
  · exact ⟨_, .stopped hrun⟩

end

/-! ## One file -/

/-- The world in which a source is loaded. -/
def loading (w : World) (src : Path) : World :=
  w.log (w.progress ("Loading source file '" ++ src.text ++ "'..."))

/-- The source is a file, and its declarations are located. -/
structure Located (parser : Parser) (w : World) (src : Path) (u : SourceUnit)
    (ds : List Declaration) : Prop where
  isFile : w.disk.isFile w.cwd src = .ok true
  analysed : analyse parser w.disk w.cwd src.text = .ok (some (u, ds))

/-- How the annotation of a file can end. -/
inductive FileCourse (parser : Parser) (client : Client) (src dst : Path)
    (template : PromptTemplate) (w : World) : Except Failure Status × World → Prop
  | untold {e : DiskError} : w.disk.isFile w.cwd src = .error e →
      FileCourse parser client src dst template w (.error (.disk e), loading w src)
  | absent : w.disk.isFile w.cwd src = .ok false →
      FileCourse parser client src dst template w (.ok .failure,
        (loading w src).log [.reported ("Error: file not found: " ++ src.text ++ "\n")])
  | unread {e : Failure} : w.disk.isFile w.cwd src = .ok true →
      analyse parser w.disk w.cwd src.text = .error e →
      FileCourse parser client src dst template w (.error e, loading w src)
  | empty : w.disk.isFile w.cwd src = .ok true →
      analyse parser w.disk w.cwd src.text = .ok none →
      FileCourse parser client src dst template w (.ok .failure,
        (loading w src).log [.reported ("Error: nothing to analyse in " ++ src.text ++ "\n")])
  | located {u : SourceUnit} {ds : List Declaration} {out : Except Failure Status × World} :
      Located parser w src u ds → Completion client template u ds dst (loading w src) out →
      FileCourse parser client src dst template w out

section

variable {parser : Parser} {client : Client} {src dst : Path} {template : PromptTemplate}
  {w : World}

/-- Once the declarations are located the rest follows, from the world that tells of the loading
alone. -/
theorem Located.exec_annotateFile {u : SourceUnit} {ds : List Declaration}
    (h : Located parser w src u ds) :
    Action.exec (annotateFile parser client src dst template) w =
      Action.exec (complete client u ds dst template) (loading w src) := by
  rw [annotateFile, Action.exec_bind_ok (Action.exec_echo _ w),
    Action.exec_bind_ok (Action.exec_get _), World.log_disk, World.log_cwd, h.isFile, h.analysed]
  refine (Action.exec_bind_ok (Action.exec_ofExcept_ok _ _ _) _).trans ?_
  exact Action.exec_bind_ok (Action.exec_ofExcept_ok _ _ _) _

theorem FileCourse.exec {out : Except Failure Status × World}
    (h : FileCourse parser client src dst template w out) :
    Action.exec (annotateFile parser client src dst template) w = out := by
  have hload : Action.exec (annotateFile parser client src dst template) w = _ :=
    Action.exec_bind_ok (Action.exec_echo _ w) _
  rw [Action.exec_bind_ok (Action.exec_get _), World.log_disk, World.log_cwd] at hload
  cases h with
  | untold hf =>
    rw [hload, hf]
    exact Action.exec_bind_error (Action.exec_ofExcept_error _ _ _) _
  | absent hf =>
    rw [hload, hf]
    exact Action.exec_bind_ok (Action.exec_ofExcept_ok _ _ _) _
  | unread hf ha =>
    rw [hload, hf, ha]
    refine (Action.exec_bind_ok (Action.exec_ofExcept_ok _ _ _) _).trans ?_
    exact Action.exec_bind_error (Action.exec_ofExcept_error _ _ _) _
  | empty hf ha =>
    rw [hload, hf, ha]
    refine (Action.exec_bind_ok (Action.exec_ofExcept_ok _ _ _) _).trans ?_
    exact Action.exec_bind_ok (Action.exec_ofExcept_ok _ _ _) _
  | located hl hc => rw [hl.exec_annotateFile, hc.exec]

theorem exists_fileCourse (parser : Parser) (client : Client) (src dst : Path)
    (template : PromptTemplate) (w : World) :
    ∃ out, FileCourse parser client src dst template w out := by
  cases hf : w.disk.isFile w.cwd src with
  | error e => exact ⟨_, .untold hf⟩
  | ok isFile =>
    cases isFile with
    | false => exact ⟨_, .absent hf⟩
    | true =>
      cases ha : analyse parser w.disk w.cwd src.text with
      | error e => exact ⟨_, .unread hf ha⟩
      | ok found =>
        cases found with
        | none => exact ⟨_, .empty hf ha⟩
        | some located =>
          obtain ⟨out, hc⟩ := exists_completion client template located.1 located.2 dst
            (loading w src)
          exact ⟨out, .located ⟨hf, ha⟩ hc⟩

end

/-! ## The command -/

/-- Where the result goes. -/
def outputPath (w : World) : Path := Path.child ⟨1, w.cwd⟩ outputName

/-- The world in which the user has been asked and has agreed. -/
def consented (i : Invocation) (w : World) : World :=
  { w.log [.printed (warning ++ "\n")] with
    verbosity := .bool (! Settings.quietRequested i.environment) }

/-- The user has agreed to a run with two arguments and with settings that can be read. -/
structure Agreed (i : Invocation) (key source : Text) (settings : Settings) : Prop where
  arguments : i.arguments = [key, source]
  confirmed : (confirm i.input).1 = true
  settings : Settings.ofEnvironment i.environment = .ok settings

/-- The run has a source, and a client for it. -/
structure Started (i : Invocation) (key source : Text) (client : Client) : Prop where
  agreed : Agreed i key source client.settings
  named : source ≠ "--"
  opened : Client.new key client.settings = .ok client

/-- How the command can end. -/
inductive Course (parser : Parser) (i : Invocation) (w : World) :
    Except Failure Status × World → Prop
  | usage : i.arguments.length ≠ 2 →
      Course parser i w (.ok .success, w.log [.printed (usage ++ "\n")])
  | declined : i.arguments.length = 2 → (confirm i.input).1 = false →
      Course parser i w (.ok .success, w.log [.printed (warning ++ "\n")])
  | misconfigured {e : SettingsError} : i.arguments.length = 2 → (confirm i.input).1 = true →
      Settings.ofEnvironment i.environment = .error e →
      Course parser i w (.ok .failure,
        (consented i w).log [.reported ("Error: " ++ e.message ++ "\n")])
  | sourceless {key : Text} {settings : Settings} : Agreed i key "--" settings →
      Course parser i w (.error .noSource, consented i w)
  | unopened {key source : Text} {settings : Settings} {e : Unencodable} :
      Agreed i key source settings → source ≠ "--" → Client.new key settings = .error e →
      Course parser i w (.error (.unencodable e), consented i w)
  | passed {key source : Text} {client : Client} {r : Except Failure Status} {w' : World} :
      Started i key source client →
      FileCourse parser client (.ofText source) (outputPath w) .standard (consented i w) (r, w') →
      (∀ e, r = .error e → e.isReported = false) → Course parser i w (r, w')
  | reported {key source : Text} {client : Client} {e : Failure} {w' : World} :
      Started i key source client →
      FileCourse parser client (.ofText source) (outputPath w) .standard (consented i w)
        (.error e, w') →
      e.isReported = true →
      Course parser i w (.ok .failure, w'.log [.reported ("Error: " ++ e.message ++ "\n")])

/-- What a run does with two arguments before it looks at the answer. -/
theorem exec_run_two (parser : Parser) (i : Invocation) {key source : Text} (w : World)
    (h : i.arguments = [key, source]) : Action.exec (run parser i) w =
      if (confirm i.input).1 then
        match Settings.ofEnvironment i.environment with
        | .error e =>
          (.ok .failure, (consented i w).log [.reported ("Error: " ++ e.message ++ "\n")])
        | .ok settings =>
          if source = "--" then (.error .noSource, consented i w)
          else Action.exec (annotateSource parser key settings (.ofText source)) (consented i w)
      else (.ok .success, w.log [.printed (warning ++ "\n")]) := by
  rw [run, h, readArguments_two]
  refine (Action.exec_bind_ok (Action.exec_emit _ w) _).trans ?_
  cases hc : (confirm i.input).1 with
  | false => rfl
  | true =>
    rw [if_pos rfl]
    refine (Action.exec_bind_ok (Action.exec_modify _ _) _).trans ?_
    cases hs : Settings.ofEnvironment i.environment with
    | error e => rfl
    | ok settings =>
      dsimp only
      by_cases hd : source = "--"
      · rw [if_pos hd, if_pos hd]
        rfl
      · rw [if_neg hd, if_neg hd]
        rfl

/-- Failures that are reported are turned into a status, the others pass. -/
theorem exec_reporting (x : Action Status) (w : World) :
    Action.exec (reporting x) w = match Action.exec x w with
      | (.ok status, w') => (.ok status, w')
      | (.error e, w') =>
        if e.isReported then (.ok .failure, w'.log [.reported ("Error: " ++ e.message ++ "\n")])
        else (.error e, w') := by
  rw [reporting, Action.exec_tryCatch]
  obtain ⟨r, w'⟩ := Action.exec x w
  cases r with
  | ok status => rfl
  | error e =>
    dsimp only
    cases e.isReported <;> rfl

theorem exec_annotateSource_error {key : Text} {settings : Settings} {e : Unencodable}
    (h : Client.new key settings = .error e) (parser : Parser) (src : Path) (w : World) :
    Action.exec (annotateSource parser key settings src) w = (.error (.unencodable e), w) := by
  rw [annotateSource, h, exec_reporting, Action.exec_bind_error (Action.exec_ofExcept_error _ _ _)]
  rfl

theorem exec_annotateSource_ok {key : Text} {settings : Settings} {client : Client}
    (h : Client.new key settings = .ok client) (parser : Parser) (src : Path) (w : World) :
    Action.exec (annotateSource parser key settings src) w =
      Action.exec (reporting (annotateFile parser client src (outputPath w) .standard)) w := by
  rw [annotateSource, h, exec_reporting, exec_reporting,
    Action.exec_bind_ok (Action.exec_ofExcept_ok _ _ _), Action.exec_bind_ok (Action.exec_get _)]
  rfl

section

variable {parser : Parser} {i : Invocation} {key source : Text} {w : World}

theorem Agreed.exec_run {settings : Settings} (h : Agreed i key source settings)
    (hs : source ≠ "--") : Action.exec (run parser i) w =
      Action.exec (annotateSource parser key settings (.ofText source)) (consented i w) := by
  rw [exec_run_two parser i w h.arguments, if_pos h.confirmed, h.settings]
  exact if_neg hs

theorem Started.exec_run {client : Client} (h : Started i key source client) :
    Action.exec (run parser i) w =
      Action.exec (reporting (annotateFile parser client (.ofText source) (outputPath w) .standard))
        (consented i w) := by
  rw [h.agreed.exec_run h.named, exec_annotateSource_ok h.opened]
  rfl

theorem Course.exec {out : Except Failure Status × World} (h : Course parser i w out) :
    Action.exec (run parser i) w = out := by
  cases h with
  | usage hn =>
    rw [run, readArguments_of_length_ne hn]
    rfl
  | declined hn hc =>
    obtain ⟨key, source, ha⟩ := List.length_eq_two.mp hn
    rw [exec_run_two parser i w ha, hc]
    rfl
  | misconfigured hn hc he =>
    obtain ⟨key, source, ha⟩ := List.length_eq_two.mp hn
    rw [exec_run_two parser i w ha, hc, he]
    rfl
  | sourceless ha =>
    rw [exec_run_two parser i w ha.arguments, if_pos ha.confirmed, ha.settings]
    exact if_pos rfl
  | unopened ha hs he => rw [ha.exec_run hs, exec_annotateSource_error he]
  | @passed key source client r w' hs hf hp =>
    rw [hs.exec_run, exec_reporting, hf.exec]
    cases r with
    | ok status => rfl
    | error e =>
      dsimp only
      rw [hp e rfl]
      rfl
  | reported hs hf hp =>
    rw [hs.exec_run, exec_reporting, hf.exec]
    dsimp only
    rw [hp]
    rfl

/-- A client keeps the settings that it is opened with. -/
theorem settings_of_new {settings : Settings} {client : Client}
    (h : Client.new key settings = .ok client) : client = { key, settings } := by
  obtain ⟨-, -, h⟩ := bind_eq_ok.mp h
  cases h
  rfl

theorem exists_course (parser : Parser) (i : Invocation) (w : World) :
    ∃ out, Course parser i w out := by
  by_cases hn : i.arguments.length = 2
  case neg => exact ⟨_, .usage hn⟩
  cases hc : (confirm i.input).1 with
  | false => exact ⟨_, .declined hn hc⟩
  | true =>
    cases he : Settings.ofEnvironment i.environment with
    | error e => exact ⟨_, .misconfigured hn hc he⟩
    | ok settings =>
      obtain ⟨key, source, ha⟩ := List.length_eq_two.mp hn
      have hagreed : Agreed i key source settings := ⟨ha, hc, he⟩
      by_cases hs : source = "--"
      · subst hs
        exact ⟨_, .sourceless hagreed⟩
      cases hnew : Client.new key settings with
      | error e => exact ⟨_, .unopened hagreed hs hnew⟩
      | ok client =>
        obtain rfl := settings_of_new hnew
        have hstarted : Started i key source { key, settings } := ⟨hagreed, hs, hnew⟩
        obtain ⟨⟨r, w'⟩, hf⟩ := exists_fileCourse parser { key, settings } (.ofText source)
          (outputPath w) .standard (consented i w)
        cases r with
        | ok status => exact ⟨_, .passed hstarted hf fun e h => by cases h⟩
        | error e =>
          cases hp : e.isReported with
          | true => exact ⟨_, .reported hstarted hf hp⟩
          | false =>
            refine ⟨_, .passed hstarted hf fun e' h => ?_⟩
            cases h
            exact hp

/-- Every run takes a course. -/
theorem course_exec (parser : Parser) (i : Invocation) (w : World) :
    Course parser i w (Action.exec (run parser i) w) := by
  obtain ⟨out, h⟩ := exists_course parser i w
  rw [h.exec]
  exact h

end

end Command

end DartComments
