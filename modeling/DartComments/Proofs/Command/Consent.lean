import DartComments.Proofs.Command.Files

/-!
# What comes before the first request

Nothing is sent and nothing is written unless the user has agreed, the settings can be read, the
source is a file and its declarations have all been located. From there on the run is `complete`,
started in a world in which nothing has been sent yet (`sends_only_after_consent`).

Which file that is depends on the links. Whether the source is a file is asked of the path as it is
given; what is analysed is its normal form, where `..` takes away the component before it. The two
are the same file when no link is on the way, and may be two files otherwise.
-/

namespace DartComments

namespace Command

section

variable {parser : Parser} {client : Client} {src dst : Path} {template : PromptTemplate}
  {i : Invocation} {key source : Text} {w : World} {out : Except Failure Status × World}

theorem requests_loading (w : World) (src : Path) : (loading w src).requests = w.requests := by
  rw [loading, World.requests_log, World.filterMap_progress, List.append_nil]

theorem requests_consented (i : Invocation) (w : World) :
    (consented i w).requests = w.requests := by
  exact w.requests_log_single (e := .printed (warning ++ "\n")) rfl

/-- A file whose declarations are not located is neither sent nor written. -/
theorem FileCourse.quiet_or_located (h : FileCourse parser client src dst template w out) :
    (out.2.requests = w.requests ∧ out.2.disk = w.disk) ∨ ∃ u ds, Located parser w src u ds := by
  have hquiet : ∀ t : Text, ((loading w src).log [.reported t]).requests = w.requests := by
    intro t
    rw [World.requests_log_single _ rfl, requests_loading]
  cases h with
  | untold _ => exact .inl ⟨requests_loading w src, rfl⟩
  | absent _ => exact .inl ⟨hquiet _, rfl⟩
  | unread _ _ => exact .inl ⟨requests_loading w src, rfl⟩
  | empty _ _ => exact .inl ⟨hquiet _, rfl⟩
  | @located u ds _ hl _ => exact .inr ⟨u, ds, hl⟩

theorem Course.quiet_or_located (h : Course parser i w out) :
    (out.2.requests = w.requests ∧ out.2.disk = w.disk) ∨
      ∃ key source client u ds, Started i key source client ∧
        Located parser w (.ofText source) u ds := by
  cases h with
  | usage _ => exact .inl ⟨w.requests_log_single rfl, rfl⟩
  | declined _ _ => exact .inl ⟨w.requests_log_single rfl, rfl⟩
  | misconfigured _ _ _ =>
    exact .inl ⟨(World.requests_log_single _ rfl).trans (requests_consented i w), rfl⟩
  | sourceless _ => exact .inl ⟨requests_consented i w, rfl⟩
  | unopened _ _ _ => exact .inl ⟨requests_consented i w, rfl⟩
  | @passed key source client r w' hs hf _ =>
    rcases hf.quiet_or_located with ⟨hr, hd⟩ | ⟨u, ds, hl⟩
    · exact .inl ⟨hr.trans (requests_consented i w), hd⟩
    · exact .inr ⟨key, source, client, u, ds, hs, hl.isFile, hl.analysed⟩
  | @reported key source client e w' hs hf _ =>
    rcases hf.quiet_or_located with ⟨hr, hd⟩ | ⟨u, ds, hl⟩
    · exact .inl ⟨(World.requests_log_single _ rfl).trans (hr.trans (requests_consented i w)), hd⟩
    · exact .inr ⟨key, source, client, u, ds, hs, hl.isFile, hl.analysed⟩

/-- A run whose declarations are located goes on from the world that tells of the question and of
the loading alone. -/
theorem Started.exec_run_located (h : Started i key source client) {u : SourceUnit}
    {ds : List Declaration} (hl : Located parser w (.ofText source) u ds) :
    Action.exec (run parser i) w =
      Action.exec (reporting (complete client u ds (outputPath w) .standard))
        (loading (consented i w) (.ofText source)) := by
  have hl' : Located parser (consented i w) (.ofText source) u ds := ⟨hl.isFile, hl.analysed⟩
  rw [h.exec_run, exec_reporting, exec_reporting, hl'.exec_annotateFile]

/-- A run that comes to bytes which can be written has sent its requests. -/
theorem Yields.requests {u : SourceUnit} {ds : List Declaration} {cs : List Text} {bytes : Bytes}
    {rs : List Request} {disk : Disk} (h : Yields parser i w key source client u ds cs bytes)
    (ha : Generation.AnsweredInTurn client .standard u.source w.outcome ds rs cs)
    (hw : w.disk.write w.cwd (outputPath w) bytes = .ok disk) :
    (Action.exec (run parser i) w).2.requests = w.requests ++ rs := by
  let start := loading (consented i w) (.ofText source)
  have hasked : (asked start ds rs).requests = w.requests ++ rs := by
    rw [asked, Generation.requests_advance, Generation.filterMap_exchanges ha, requests_loading,
      requests_consented]
  rw [h.exec_run ha hw, World.requests_log, List.filterMap_cons_none rfl,
    World.filterMap_progress, List.append_nil]
  exact hasked

/-- A run that comes to bytes for a source with declarations has sent requests. -/
theorem Yields.requests_ne {u : SourceUnit} {ds : List Declaration} {cs : List Text} {bytes : Bytes}
    {disk : Disk} (h : Yields parser i w key source client u ds cs bytes) (hds : ds ≠ [])
    (hw : w.disk.write w.cwd (outputPath w) bytes = .ok disk) :
    (Action.exec (run parser i) w).2.requests ≠ w.requests := by
  obtain ⟨rs, ha⟩ := h.answered
  rw [h.requests ha hw]
  intro heq
  have hlen := ha.length_requests
  rw [List.append_right_eq_self.mp heq, List.length_nil] at hlen
  exact hds (List.length_eq_zero_iff.mp hlen.symm)

/-- The first character of the first line is a `y` when the user agrees. -/
theorem head?_of_confirm {input : Text} (h : (confirm input).1 = true) :
    (input.takeWhile (· ≠ .char '\n')).head? = some (.char 'y') := by
  have hy : input.head? = some (.char 'y') := by simpa [confirm] using h
  obtain ⟨rest, rfl⟩ := List.head?_eq_some_iff.mp hy
  rfl

end

/-- What is settled about a run before its first request: two arguments, a yes, settings, a source
that is a file, and the declarations `ds` of the unit `u`, which is the file with content `raw` at
the normal form of the source. -/
structure Cleared (parser : Parser) (i : Invocation) (w : World) (key source : Text)
    (settings : Settings) (raw : Bytes) (u : SourceUnit) (ds : List Declaration) : Prop where
  arguments : i.arguments = [key, source]
  agreed : (i.input.takeWhile (· ≠ .char '\n')).head? = some (.char 'y')
  settings : Settings.ofEnvironment i.environment = .ok settings
  isFile : w.disk.isFile w.cwd (.ofText source) = .ok true
  read : w.disk.read w.cwd
    (Path.normalise (Path.text ⟨1, w.cwd⟩) (Path.ofText source).text) = .ok raw
  bytes : u.bytes = raw
  tree : u.tree = parser raw
  located : u.declarations = .ok ds

/-- Where no link is on the way, the file that is analysed is the one that the source names. -/
theorem Cleared.eq_of_names {parser : Parser} {i : Invocation} {w : World} {key source : Text}
    {settings : Settings} {raw raw' : Bytes} {u : SourceUnit} {ds : List Declaration}
    {place : List Text} (h : Cleared parser i w key source settings raw u ds)
    (hcwd : w.disk.IsWorkingDirectory w.cwd)
    (hnames : w.disk.Names w.cwd (.ofText source) place raw') : raw' = raw := by
  have hread := h.read
  rw [hnames.normalise hcwd] at hread
  exact Except.ok.inj ((hnames.read_full hcwd).symm.trans hread)

/-- **Consent first.** A run that sends a request or changes the disk has been cleared, and its
declarations were located before anything was sent: all that is left to do then is `complete`, from
a world with no new request and the same disk. -/
theorem sends_only_after_consent (parser : Parser) (i : Invocation) (w : World)
    (h : (Action.exec (run parser i) w).2.requests ≠ w.requests ∨
      (Action.exec (run parser i) w).2.disk ≠ w.disk) :
    ∃ key source client raw u ds before,
      Cleared parser i w key source client.settings raw u ds ∧
        (w.disk.IsWorkingDirectory w.cwd → ∀ place raw',
          w.disk.Names w.cwd (.ofText source) place raw' → raw' = raw) ∧
        before.requests = w.requests ∧ before.disk = w.disk ∧
        Action.exec (run parser i) w =
          Action.exec (reporting (complete client u ds (outputPath w) .standard)) before := by
  rcases (course_exec parser i w).quiet_or_located with
    ⟨hr, hd⟩ | ⟨key, source, client, u, ds, hs, hl⟩
  · rcases h with hne | hne
    · exact absurd hr hne
    · exact absurd hd hne
  obtain ⟨raw, hread, hu, hds⟩ := unit_of_analyse hl.analysed
  have hcleared : Cleared parser i w key source client.settings raw u ds :=
    ⟨hs.agreed.arguments, head?_of_confirm hs.agreed.confirmed, hs.agreed.settings, hl.isFile,
      hread, by rw [hu]; rfl, by rw [hu]; rfl, hds⟩
  refine ⟨key, source, client, raw, u, ds, loading (consented i w) (.ofText source), hcleared,
    fun hcwd place raw' hnames => hcleared.eq_of_names hcwd hnames, ?_, rfl,
    hs.exec_run_located hl⟩
  rw [requests_loading, requests_consented]

theorem selfWorld_cleared : ∃ settings u ds, Cleared (fun _ => smallTree) (agreement outputName)
    selfWorld "k" outputName settings smallSource u ds := by
  obtain ⟨u, hy⟩ := selfWorld_yields
  have hsent := hy.requests_ne (by simp) (Disk.write_eq selfWorld_target (by decide) _)
  obtain ⟨key, source, client, raw, u, ds, -, hc, hnames, -⟩ :=
    sends_only_after_consent (fun _ => smallTree) (agreement outputName) selfWorld (.inl hsent)
  cases hc.arguments
  obtain rfl := hnames selfWorld_isWorkingDirectory _ _ selfWorld_names
  exact ⟨client.settings, u, ds, hc⟩

/-! ## Two files -/

/-- A link `l` into the directory `o`, which holds another file than the working directory under the
same name. -/
def crossedWorld : World :=
  { smallWorld with
    disk := ⟨[(["w"], .directory), (["w", "b"], .file smallSource), (["w", "l"], .link "o/s"),
      (["w", "o"], .directory), (["w", "o", "b"], .file [66]), (["w", "o", "s"], .directory)]⟩ }

/-- Reads the small source, and nothing else. -/
def crossedParser : Parser := fun raw =>
  if raw = smallSource then smallTree else Locate.leaf .error 0 1

theorem crossedWorld_named :
    crossedWorld.disk.read crossedWorld.cwd (.ofText "l/../b") = .ok [66] := by
  have hplace : crossedWorld.disk.locate crossedWorld.cwd (.ofText "l/../b") =
      .ok ["w", "o", "b"] := by
    refine Disk.locate_eq_ok.mpr ⟨⟨rfl, by decide⟩, .follow (by decide) (by decide) rfl ?_⟩
    refine .down (by decide) (by decide) rfl (.down (by decide) (by decide) rfl (.up ?_))
    exact .last (by decide) (by decide) (.inr ⟨_, rfl⟩)
  exact Disk.read_of_locate hplace rfl

theorem crossedWorld_target : crossedWorld.disk.locate crossedWorld.cwd
    (outputPath crossedWorld) = .ok ["w", outputName] :=
  locate_w rfl (by decide) ⟨rfl, by decide⟩ (.inl rfl) _

theorem crossedWorld_yields : ∃ u, Yields crossedParser (agreement "l/../b") crossedWorld "k"
    "l/../b" standardClient u [smallDeclaration] [[.char 'é']] smallResult := by
  have hplace : crossedWorld.disk.locate crossedWorld.cwd ⟨1, ["w", "b"]⟩ = .ok ["w", "b"] :=
    locate_w rfl (by decide) ⟨rfl, by decide⟩ (.inr ⟨_, rfl⟩) _
  have hread : crossedWorld.disk.read crossedWorld.cwd ⟨1, ["w", "b"]⟩ = .ok smallSource :=
    Disk.read_of_locate hplace rfl
  have hroot : Path.normalise (Path.text ⟨1, crossedWorld.cwd⟩) (Path.ofText "l/../b").text =
      ⟨1, ["w", "b"]⟩ := by decide +kernel
  have hkey : Path.normalise (Path.text ⟨1, crossedWorld.cwd⟩) (Path.text ⟨1, ["w", "b"]⟩) =
      ⟨1, ["w", "b"]⟩ := by decide +kernel
  have hanalyse := analyse_of_normalise crossedParser hroot hkey hread
  exact ⟨_, yields_smallResult (by decide) rfl
    ⟨Disk.isFile_of_read crossedWorld_named, hanalyse⟩⟩

/-- The file that the source names cannot be parsed, and yet a request is sent: it is about the
other file. -/
theorem crossedWorld_sends_other_file :
    crossedWorld.disk.read crossedWorld.cwd (.ofText "l/../b") = .ok [66] ∧
      (∀ ds, (SourceUnit.ofFile crossedParser none [66]).declarations ≠ .ok ds) ∧
      (Action.exec (run crossedParser (agreement "l/../b")) crossedWorld).2.requests ≠
        crossedWorld.requests := by
  refine ⟨crossedWorld_named, fun ds hds => ?_, ?_⟩
  · cases hds
  · obtain ⟨u, hy⟩ := crossedWorld_yields
    exact hy.requests_ne (by simp) (Disk.write_eq crossedWorld_target (by decide) _)

end Command

end DartComments
