import DartComments.Proofs.Backend.Request
import DartComments.Proofs.Command.Output
import DartComments.Proofs.Disk.Write

/-!
# What a run does to the disk

A run writes at most once, at its very end, and to one path: `output.dart` in the working directory.
`Yields` says when it comes that far, and with which bytes. Every other run leaves the disk as it
was (`run_writes_all_or_nothing`).

Nothing compares that path with the source. A source that is the output file is written over with
its own rewriting, and `source_overwritten_iff` tells exactly when its bytes are lost by that.
-/

namespace DartComments

namespace Command

/-! ## The one write -/

/-- The run comes to bytes to write: it is started, the declarations are located, each has got its
comment, and the rewriting can be encoded. -/
structure Yields (parser : Parser) (i : Invocation) (w : World) (key source : Text)
    (client : Client) (u : SourceUnit) (ds : List Declaration) (cs : List Text) (bytes : Bytes) :
    Prop where
  started : Started i key source client
  located : Located parser w (.ofText source) u ds
  answered : ∃ rs, Generation.AnsweredInTurn client .standard u.source w.outcome ds rs cs
  encoded : Utf8.encodeEscaped (rewriting u ds cs) = .ok bytes

section

variable {parser : Parser} {client : Client} {src dst : Path} {template : PromptTemplate}
  {u : SourceUnit} {ds : List Declaration} {i : Invocation} {w : World}
  {out : Except Failure Status × World}

/-- Only what ends well has written. -/
theorem Completion.disk (h : Completion client template u ds dst w out) :
    (out.2.disk = w.disk ∧ out.1 ≠ .ok .success) ∨
      ∃ rs cs bytes, Generation.AnsweredInTurn client template u.source w.outcome ds rs cs ∧
        Utf8.encodeEscaped (rewriting u ds cs) = .ok bytes ∧ out.1 = .ok .success ∧
        w.disk.write w.cwd dst bytes = .ok out.2.disk := by
  cases h with
  | stopped hrun =>
    obtain ⟨_, _, _, _, _, _, _, -, -, -, rfl⟩ := stops_of_exec_annotate hrun
    exact .inl ⟨rfl, by simp⟩
  | unwritable _ _ => exact .inl ⟨rfl, by simp⟩
  | unsaved _ _ _ => exact .inl ⟨rfl, by simp⟩
  | saved ha he hw => exact .inr ⟨_, _, _, ha, he, rfl, hw⟩

theorem FileCourse.disk (h : FileCourse parser client src dst template w out) :
    (out.2.disk = w.disk ∧ out.1 ≠ .ok .success) ∨
      ∃ u ds rs cs bytes, Located parser w src u ds ∧
        Generation.AnsweredInTurn client template u.source w.outcome ds rs cs ∧
        Utf8.encodeEscaped (rewriting u ds cs) = .ok bytes ∧ out.1 = .ok .success ∧
        w.disk.write w.cwd dst bytes = .ok out.2.disk := by
  cases h with
  | untold _ => exact .inl ⟨rfl, by simp⟩
  | absent _ => exact .inl ⟨rfl, by simp⟩
  | unread _ _ => exact .inl ⟨rfl, by simp⟩
  | empty _ _ => exact .inl ⟨rfl, by simp⟩
  | @located u ds _ hl hc =>
    rcases hc.disk with hkept | ⟨rs, cs, bytes, ha, he, hok, hw⟩
    · exact .inl hkept
    · exact .inr ⟨u, ds, rs, cs, bytes, hl, ha, he, hok, hw⟩

/-- A run leaves the disk as it was, or has written the bytes that it came to. -/
theorem Course.disk (h : Course parser i w out) :
    (out.2.disk = w.disk ∧
      (out.1 = .ok .success → i.arguments.length ≠ 2 ∨ (confirm i.input).1 = false)) ∨
      ∃ key source client u ds cs bytes, Yields parser i w key source client u ds cs bytes ∧
        out.1 = .ok .success ∧ w.disk.write w.cwd (outputPath w) bytes = .ok out.2.disk := by
  cases h with
  | usage hn => exact .inl ⟨rfl, fun _ => .inl hn⟩
  | declined _ hc => exact .inl ⟨rfl, fun _ => .inr hc⟩
  | misconfigured _ _ _ => exact .inl ⟨rfl, by simp⟩
  | sourceless _ => exact .inl ⟨rfl, by simp⟩
  | unopened _ _ _ => exact .inl ⟨rfl, by simp⟩
  | @passed key source client _ _ hs hf _ =>
    rcases hf.disk with ⟨hkept, hne⟩ | ⟨u, ds, rs, cs, bytes, hl, ha, he, hok, hw⟩
    · exact .inl ⟨hkept, fun hok => absurd hok hne⟩
    · exact .inr ⟨key, source, client, u, ds, cs, bytes, ⟨hs, ⟨hl.isFile, hl.analysed⟩, ⟨rs, ha⟩,
        he⟩, hok, hw⟩
  | reported _ hf _ =>
    rcases hf.disk with ⟨hkept, -⟩ | ⟨_, _, _, _, _, -, -, -, hok, -⟩
    · exact .inl ⟨hkept, by simp⟩
    · cases hok

variable {key source : Text} {cs : List Text} {bytes : Bytes}

/-- A run that comes to bytes which can be written writes them. -/
theorem Yields.exec_run {rs : List Request} {disk : Disk}
    (h : Yields parser i w key source client u ds cs bytes)
    (ha : Generation.AnsweredInTurn client .standard u.source w.outcome ds rs cs)
    (hw : w.disk.write w.cwd (outputPath w) bytes = .ok disk) :
    let start := loading (consented i w) (.ofText source)
    Action.exec (run parser i) w =
      (.ok .success, { asked start ds rs with disk }.log (.saved (outputPath w) bytes ::
        start.progress ("Updated source written to " ++ (outputPath w).text))) := by
  intro start
  have hcompletion : Completion client .standard u ds (outputPath w) start _ :=
    .saved ha h.encoded hw
  have hcourse := Course.passed h.started
    (.located ⟨h.located.isFile, h.located.analysed⟩ hcompletion) fun _ he => by cases he
  exact hcourse.exec

theorem Yields.exec {disk : Disk} (h : Yields parser i w key source client u ds cs bytes)
    (hw : w.disk.write w.cwd (outputPath w) bytes = .ok disk) :
    (Action.exec (run parser i) w).1 = .ok .success ∧
      (Action.exec (run parser i) w).2.disk = disk := by
  obtain ⟨rs, ha⟩ := h.answered
  rw [h.exec_run ha hw]
  exact ⟨rfl, rfl⟩

theorem Yields.length_comments (h : Yields parser i w key source client u ds cs bytes) :
    cs.length = ds.length := by
  obtain ⟨rs, ha⟩ := h.answered
  exact ha.length_comments

end

/-- The output path leads to one place: the file of that name in the working directory, unless that
is a link. -/
theorem eq_of_locate_outputPath {w : World} {place : List Text}
    (h : w.disk.locate w.cwd (outputPath w) = .ok place)
    (hcwd : w.disk.IsWorkingDirectory w.cwd)
    (hlink : ∀ t, w.disk.entry? (w.cwd ++ [outputName]) ≠ some (.link t)) :
    place = w.cwd ++ [outputName] :=
  Disk.locate_child hcwd.real (by decide) (by decide) hlink h

/-- **All or nothing.** Whatever a run changes lies where the output path leads. A run that fails,
or ends before it has been agreed to, changes nothing; a run that is agreed to and ends well has
written there the whole rewriting, with a comment for each located declaration. -/
theorem run_writes_all_or_nothing (parser : Parser) (i : Invocation) (w : World) :
    let out := Action.exec (run parser i) w
    (∀ place, out.2.disk.entry? place ≠ w.disk.entry? place →
      w.disk.locate w.cwd (outputPath w) = .ok place ∧
        (w.disk.IsWorkingDirectory w.cwd →
          (∀ t, w.disk.entry? (w.cwd ++ [outputName]) ≠ some (.link t)) →
          place = w.cwd ++ [outputName])) ∧
      (out.1 ≠ .ok .success ∨ i.arguments.length ≠ 2 ∨ (confirm i.input).1 = false →
        out.2.disk = w.disk) ∧
      (out.1 = .ok .success → i.arguments.length = 2 → (confirm i.input).1 = true →
        ∃ key source client u ds cs bytes, Yields parser i w key source client u ds cs bytes ∧
          cs.length = ds.length ∧ out.2.disk.read w.cwd (outputPath w) = .ok bytes) := by
  intro out
  have hcourse : Course parser i w out := course_exec parser i w
  rcases hcourse.disk with ⟨hkept, hend⟩ | ⟨key, source, client, u, ds, cs, bytes, hy, hok, hw⟩
  · refine ⟨fun place hne => ?_, fun _ => hkept, fun hok hn hc => ?_⟩
    · rw [hkept] at hne
      exact absurd rfl hne
    · rcases hend hok with hne | hdeclined
      · exact absurd hn hne
      · rw [hdeclined] at hc
        cases hc
  · refine ⟨fun place hne => ?_, fun hfail => ?_, fun _ _ _ => ?_⟩
    · have hplace := Disk.locate_of_entry?_ne hw hne
      exact ⟨hplace, eq_of_locate_outputPath hplace⟩
    · have hagreed := hy.started.agreed
      rcases hfail with hne | hn | hc
      · exact absurd hok hne
      · rw [hagreed.arguments] at hn
        exact absurd rfl hn
      · rw [hagreed.confirmed] at hc
        cases hc
    · exact ⟨key, source, client, u, ds, cs, bytes, hy, hy.length_comments,
        Disk.read_write rfl hw⟩

/-! ### Through a link -/

/-- A run on a source that is agreed to. -/
def agreement (source : Text) : Invocation := ⟨["k", source], "y", []⟩

/-- The client of such a run. -/
def standardClient : Client :=
  { key := "k"
    settings := ⟨Settings.defaultModel, 100, Settings.defaultTemperature, ApiStyle.chat.endpoint,
      .chat, none⟩ }

theorem started_agreement {source : Text} (h : source ≠ "--") :
    Started (agreement source) "k" source standardClient :=
  ⟨⟨rfl, rfl, rfl⟩, h, rfl⟩

/-- A source without declarations at `/w/a`, and an output file that is a link to another. -/
def linkedWorld : World :=
  { verbosity := .bool true
    outcomes := []
    cwd := ["w"]
    disk := ⟨[(["w"], .directory), (["w", "a"], .file [65]), (["w", "b"], .file []),
      (["w", outputName], .link "b")]⟩
    trace := [] }

theorem linkedWorld_isWorkingDirectory : linkedWorld.disk.IsWorkingDirectory linkedWorld.cwd :=
  isWorkingDirectory_w rfl

theorem linkedWorld_names :
    linkedWorld.disk.Names linkedWorld.cwd (.ofText "a") ["w", "a"] [65] :=
  ⟨.last (by decide) (by decide) (.inr ⟨_, rfl⟩), ⟨rfl, by decide⟩, rfl, ⟨rfl, by decide⟩⟩

theorem linkedWorld_target :
    linkedWorld.disk.locate linkedWorld.cwd (outputPath linkedWorld) = .ok ["w", "b"] := by
  refine Disk.locate_eq_ok.mpr ⟨⟨rfl, by decide⟩, .down (by decide) (by decide) rfl ?_⟩
  refine .follow (by decide) (by decide) rfl ?_
  exact .last (by decide) (by decide) (.inr ⟨_, rfl⟩)

theorem linkedWorld_yields : ∃ u, Yields (fun _ => Locate.leaf (.other []) 0 1) (agreement "a")
    linkedWorld "k" "a" standardClient u [] [] [65] := by
  obtain ⟨path, ha⟩ := analyse_of_names (fun _ => Locate.leaf (.other []) 0 1) linkedWorld_names
    linkedWorld_isWorkingDirectory
  exact ⟨_, started_agreement (by decide), ⟨Disk.isFile_of_read linkedWorld_names.read, ha⟩,
    ⟨[], .nil⟩, rfl⟩

/-- The run writes to the file that the link leads to, which is not the one in the working directory
that has the name of the output. -/
theorem linkedWorld_other_file_changed :
    linkedWorld.disk.IsWorkingDirectory linkedWorld.cwd ∧
      (["w", "b"] : List Text) ≠ linkedWorld.cwd ++ [outputName] ∧
      linkedWorld.disk.entry? ["w", "b"] = some (.file []) ∧
      (Action.exec (run (fun _ => Locate.leaf (.other []) 0 1) (agreement "a"))
        linkedWorld).2.disk.entry? ["w", "b"] = some (.file [65]) := by
  refine ⟨linkedWorld_isWorkingDirectory, by decide, rfl, ?_⟩
  obtain ⟨u, hy⟩ := linkedWorld_yields
  have hw := Disk.write_eq linkedWorld_target (by decide) [65]
  rw [(hy.exec hw).2]
  exact Disk.entry?_write hw linkedWorld_target

/-! ## The source -/

section

variable {parser : Parser} {client : Client} {u : SourceUnit} {ds : List Declaration}
  {i : Invocation} {w : World} {key source : Text} {cs : List Text} {bytes : Bytes}

/-- The unit of a run has the text of its bytes. -/
theorem Located.source_eq {src : Path} (h : Located parser w src u ds) :
    u.source = Utf8.decodeEscaped u.bytes := by
  obtain ⟨raw, -, rfl, -⟩ := unit_of_analyse h.analysed
  rfl

/-- Each comment adds its line ending, at least. -/
theorem Yields.length_lt (h : Yields parser i w key source client u ds cs bytes) (hds : ds ≠ []) :
    u.bytes.length < bytes.length := by
  obtain ⟨d, ds, rfl⟩ := List.exists_cons_of_ne_nil hds
  obtain ⟨c, cs, rfl⟩ := List.exists_cons_of_length_eq_add_one h.length_comments
  have hadded := Insertion.width_drop_add_le u.source 0
    (Insertion.pieces (LineEnding.dominant u.source).text (d :: ds) (c :: cs))
  have hending := (LineEnding.dominant u.source).width_text_pos
  have hsource : Utf8.width u.source = u.bytes.length := by
    rw [h.located.source_eq, Utf8.width_decodeEscaped]
  have hbytes : Utf8.width (rewriting u (d :: ds) (c :: cs)) = bytes.length :=
    congrArg List.length (Utf8.encodeEscaped_eq_ok.mp h.encoded).2
  rw [← rewriting, hbytes, List.drop_zero, hsource, Insertion.pieces, List.zipWith_cons_cons,
    List.flatMap_cons, Utf8.width_append, Utf8.width_append] at hadded
  omega

/-- A source is written as it was when it has no declarations, and only then. -/
theorem Yields.bytes_ne_iff (h : Yields parser i w key source client u ds cs bytes) :
    bytes ≠ u.bytes ↔ ds ≠ [] := by
  constructor
  · rintro hne rfl
    refine hne (Except.ok.inj (h.encoded.symm.trans ?_))
    show Utf8.encodeEscaped (u.source.drop 0) = .ok u.bytes
    rw [List.drop_zero, h.located.source_eq]
    exact Utf8.encodeEscaped_decodeEscaped u.bytes
  · intro hds heq
    have hlt := h.length_lt hds
    rw [heq] at hlt
    exact Nat.lt_irrefl _ hlt

/-- **When the source is lost.** The file that the source leads to has other bytes after the run
exactly when the output path leads to it as well and the run comes to other bytes. When it is that
file which has been annotated, one declaration is enough. -/
theorem source_overwritten_iff (parser : Parser) (i : Invocation) (w : World) (key source : Text)
    (place : List Text) (raw : Bytes) (hargs : i.arguments = [key, source])
    (hplace : w.disk.locate w.cwd (.ofText source) = .ok place)
    (hfile : w.disk.entry? place = some (.file raw)) :
    ((Action.exec (run parser i) w).2.disk.entry? place ≠ some (.file raw) ↔
      w.disk.locate w.cwd (outputPath w) = w.disk.locate w.cwd (.ofText source) ∧
        ∃ client u ds cs bytes, Yields parser i w key source client u ds cs bytes ∧ bytes ≠ raw) ∧
      ∀ client u ds cs bytes, Yields parser i w key source client u ds cs bytes → u.bytes = raw →
        (bytes ≠ raw ↔ ds ≠ []) := by
  refine ⟨⟨fun hne => ?_, ?_⟩, ?_⟩
  · rcases (course_exec parser i w).disk with
      ⟨hkept, -⟩ | ⟨key', source', client, u, ds, cs, bytes, hy, -, hw⟩
    · rw [hkept] at hne
      exact absurd hfile hne
    · obtain ⟨rfl, rfl⟩ : key' = key ∧ source' = source := by
        simpa [hargs] using hy.started.agreed.arguments.symm
      have htarget : w.disk.locate w.cwd (outputPath w) = .ok place := by
        refine Disk.locate_of_entry?_ne hw ?_
        rwa [hfile]
      rw [Disk.entry?_write hw htarget] at hne
      refine ⟨htarget.trans hplace.symm, client, u, ds, cs, bytes, hy, fun heq => hne ?_⟩
      rw [heq]
  · rintro ⟨hsame, client, u, ds, cs, bytes, hy, hne⟩
    have htarget := hsame.trans hplace
    have hdir : w.disk.entry? place ≠ some .directory := by
      rw [hfile]
      simp
    have hw := Disk.write_eq htarget hdir bytes
    rw [(hy.exec hw).2, Disk.entry?_write hw htarget]
    simpa using hne
  · rintro client u ds cs bytes hy rfl
    exact hy.bytes_ne_iff

end

/-- A source of two arguments that leads elsewhere than the output is kept. -/
theorem smallWorld_source_kept : (Action.exec (run (fun _ => smallTree) (agreement "a"))
    smallWorld).2.disk.entry? ["w", "a"] = some (.file smallSource) := by
  by_contra hne
  obtain ⟨hsame, -⟩ := (source_overwritten_iff (fun _ => smallTree) (agreement "a") smallWorld
    "k" "a" ["w", "a"] smallSource rfl (smallWorld_names.allowed.locate smallWorld_names.walk)
    rfl).1.mp hne
  have htarget : smallWorld.disk.locate smallWorld.cwd (outputPath smallWorld) =
      .ok ["w", outputName] :=
    locate_w rfl (by decide) ⟨rfl, by decide⟩ (.inl rfl) _
  rw [htarget, smallWorld_names.allowed.locate smallWorld_names.walk] at hsame
  revert hsame
  decide

/-- The small world with its source in the place of the output. -/
def selfWorld : World :=
  { smallWorld with disk := ⟨[(["w"], .directory), (["w", outputName], .file smallSource)]⟩ }

theorem selfWorld_isWorkingDirectory : selfWorld.disk.IsWorkingDirectory selfWorld.cwd :=
  isWorkingDirectory_w rfl

theorem selfWorld_names :
    selfWorld.disk.Names selfWorld.cwd (.ofText outputName) ["w", outputName] smallSource :=
  ⟨.last (by decide) (by decide) (.inr ⟨_, rfl⟩), ⟨rfl, by decide⟩, rfl, ⟨rfl, by decide⟩⟩

theorem selfWorld_target :
    selfWorld.disk.locate selfWorld.cwd (outputPath selfWorld) = .ok ["w", outputName] :=
  locate_w rfl (by decide) ⟨rfl, by decide⟩ (.inr ⟨_, rfl⟩) _

/-- The one declaration of the small tree. -/
def smallDeclaration : Declaration := ⟨"f", .function, ⟨4, 15, by decide⟩⟩

theorem smallDeclaration_answered : ∃ r, Generation.Answered standardClient .standard
    (Utf8.decodeEscaped smallSource) (smallWorld.outcome 0) smallDeclaration r [.char 'é'] := by
  have haskable : Generation.Askable standardClient (Utf8.decodeEscaped smallSource)
      smallDeclaration :=
    ⟨⟨_, rfl⟩, by decide, rfl, Text.surrogateFree_ofString _, Text.surrogateFree_ofString _,
      by decide⟩
  obtain ⟨r, hr⟩ := (Generation.ask_ok_iff rfl).mpr haskable
  refine ⟨r, by decide, hr, ?_⟩
  obtain ⟨url, authorization, timeout, body⟩ := r
  cases Generation.url_of_ask hr
  rfl

/-- The small source with its comment. -/
def smallResult : Bytes := smallSource.take 5 ++ [0xC3, 0xA9, 13, 10] ++ smallSource.drop 5

/-- A run on the small source comes to the small result, wherever the source is. -/
theorem yields_smallResult {parser : Parser} {source : Text} {path : Option Text} {w : World}
    (hs : source ≠ "--") (ho : w.outcomes = smallWorld.outcomes)
    (hl : Located parser w (.ofText source) (.ofFile parser path smallSource) [smallDeclaration]) :
    Yields parser (agreement source) w "k" source standardClient (.ofFile parser path smallSource)
      [smallDeclaration] [[.char 'é']] smallResult := by
  have hencoded : Utf8.encodeEscaped (rewriting (.ofFile (fun _ => smallTree) none smallSource)
      [smallDeclaration] [[.char 'é']]) = .ok smallResult :=
    Utf8.encodeEscaped_eq_ok.mpr (by decide +kernel)
  obtain ⟨r, hr⟩ := smallDeclaration_answered
  have houtcome : w.outcome = smallWorld.outcome := by
    funext n
    rw [World.outcome, ho, World.outcome]
  refine ⟨started_agreement hs, hl, ⟨[r], ?_⟩, hencoded⟩
  rw [houtcome]
  exact .cons hr .nil

theorem selfWorld_yields : ∃ u, Yields (fun _ => smallTree) (agreement outputName) selfWorld "k"
    outputName standardClient u [smallDeclaration] [[.char 'é']] smallResult := by
  obtain ⟨path, ha⟩ := analyse_of_names (fun _ => smallTree) selfWorld_names
    selfWorld_isWorkingDirectory
  exact ⟨_, yields_smallResult (by decide) rfl ⟨Disk.isFile_of_read selfWorld_names.read, ha⟩⟩

/-- A source that is named like the output is written over with its own rewriting. -/
theorem selfWorld_source_overwritten :
    selfWorld.disk.read selfWorld.cwd (.ofText outputName) = .ok smallSource ∧
      (Action.exec (run (fun _ => smallTree) (agreement outputName)) selfWorld).2.disk.read
        selfWorld.cwd (outputPath selfWorld) = .ok smallResult ∧ smallResult ≠ smallSource := by
  refine ⟨selfWorld_names.read, ?_, by decide⟩
  obtain ⟨u, hy⟩ := selfWorld_yields
  have hw := Disk.write_eq selfWorld_target (by decide) smallResult
  rw [(hy.exec hw).2]
  exact Disk.read_write rfl hw

end Command

end DartComments
