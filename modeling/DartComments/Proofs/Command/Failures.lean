import DartComments.Proofs.Backend.Reply
import DartComments.Proofs.Command.Files

/-!
# Failures that are reported and failures that escape

The command reports the failures it expects and passes the others on. `Escapes` lists the ways in
which one passes, in terms of what the run is given: the arguments, the settings, the paths, the
declarations, the replies. When the parser makes trees over its sources these are all the ways there
are in a `World` (`run_fails_iff_escapes`); a run that ends in failure has then reported exactly one
problem.

A `World` has no limits of its own beyond those of paths. So the list says nothing of a call stack
that a tree nested too deeply exhausts (only documents in replies have a limit, `Json.tooDeep?`), of
files and directories that may not be read or written, of a timeout that the transport refuses, and
of a console that refuses a text.
-/

namespace DartComments

namespace Command

/-- The ways in which a failure passes the command, in a world without limits on the call stack, on
access to files, on timeouts and on what can be printed. -/
inductive Escapes (parser : Parser) (i : Invocation) (w : World) : Prop
  /-- Two dashes leave no source. -/
  | sourceless {key : Text} {settings : Settings} : Agreed i key "--" settings →
      Escapes parser i w
  | key {key source : Text} {settings : Settings} : Agreed i key source settings →
      source ≠ "--" → (∃ c ∈ key, c.isAscii = false) → Escapes parser i w
  /-- The source is too long for a path. -/
  | path {key source : Text} {client : Client} : Started i key source client →
      w.disk.locate w.cwd (.ofText source) = .error .nameTooLong → Escapes parser i w
  /-- The source is a file, and its normal form is too long for a path. -/
  | normalForm {key source : Text} {client : Client} : Started i key source client →
      w.disk.isFile w.cwd (.ofText source) = .ok true →
      w.disk.locate w.cwd
        (Path.normalise (Path.text ⟨1, w.cwd⟩) (Path.ofText source).text) = .error .nameTooLong →
      Escapes parser i w
  /-- A declaration is reached that there is no request for. -/
  | unaskable {key source : Text} {client : Client} {u : SourceUnit}
      {before later : List Declaration} {d : Declaration} {rs : List Request} {cs : List Text} :
      Started i key source client → Located parser w (.ofText source) u (before ++ d :: later) →
      Generation.AnsweredInTurn client .standard u.source w.outcome before rs cs →
      ¬ Generation.Askable client u.source d → Escapes parser i w
  /-- A declaration is asked about, and the reply is one that no backend error tells of. -/
  | reply {key source : Text} {client : Client} {u : SourceUnit}
      {before later : List Declaration} {d : Declaration} {rs : List Request} {cs : List Text}
      {r : Request} {reply : Reply} :
      Started i key source client → Located parser w (.ofText source) u (before ++ d :: later) →
      Generation.AnsweredInTurn client .standard u.source w.outcome before rs cs →
      Generation.ask client .standard u.source d = .ok r →
      w.outcome before.length = .reply reply → reply.Derails client.settings.style r.url →
      Escapes parser i w
  /-- A comment holds a surrogate that stands for no byte. -/
  | comment {key source : Text} {client : Client} {u : SourceUnit} {ds : List Declaration}
      {rs : List Request} {cs : List Text} :
      Started i key source client → Located parser w (.ofText source) u ds →
      Generation.AnsweredInTurn client .standard u.source w.outcome ds rs cs →
      (∃ t ∈ cs, ∃ c ∈ t, Utf8.isStray c = true) → Escapes parser i w
  /-- The output cannot be written. -/
  | output {key source : Text} {client : Client} {u : SourceUnit} {ds : List Declaration}
      {cs : List Text} {bytes : Bytes} {e : DiskError} :
      Yields parser i w key source client u ds cs bytes →
      w.disk.write w.cwd (outputPath w) bytes = .error e → Escapes parser i w

/-! ## Sources and results -/

section

variable {parser : Parser} {client : Client} {src dst : Path} {template : PromptTemplate}
  {u : SourceUnit} {ds : List Declaration} {cs : List Text} {i : Invocation} {key source : Text}
  {w : World} {out : Except Failure Status × World}

theorem Started.closed (h : Started i key source client) : client.closed = false := by
  rw [settings_of_new h.opened]

/-- The parser makes trees over all sources on the disk. -/
def Sound (parser : Parser) (disk : Disk) : Prop :=
  ∀ place raw, disk.entry? place = some (.file raw) → (parser raw).WellFormed raw

theorem Sound.wellFormed (h : Sound parser w.disk) (hl : Located parser w src u ds) :
    u.tree.WellFormed u.bytes := by
  obtain ⟨raw, hread, rfl, -⟩ := unit_of_analyse hl.analysed
  obtain ⟨place, -, hentry⟩ := Disk.exists_place_of_read hread
  exact h place raw hentry

theorem Sound.stop_le (h : Sound parser w.disk) (hl : Located parser w src u ds) :
    ∀ d ∈ ds, d.range.stop ≤ u.source.length := by
  obtain ⟨-, -, -, hds⟩ := unit_of_analyse hl.analysed
  rw [hl.source_eq]
  exact Locate.stop_le_length (h.wellFormed hl) hds

/-- What a sound parser's trees are found to be wrong with is reported. -/
theorem isReported_of_declarations (hwf : u.tree.WellFormed u.bytes) {e : LocateError}
    (h : u.declarations = .error e) : (Failure.locate e).isReported = true := by
  rcases Locate.declarations_eq_error hwf h with rfl | ⟨p, head, -, ⟨-, rfl⟩ | ⟨name, -, -, rfl⟩⟩
  · rw [Locate.fault]
    split <;> rfl
  · rfl
  · rfl

/-- A rewriting can be encoded unless a comment holds a stray surrogate. -/
theorem encodeEscaped_rewriting_error_iff (hu : u.source = Utf8.decodeEscaped u.bytes)
    (hlen : cs.length = ds.length) :
    (∃ e, Utf8.encodeEscaped (rewriting u ds cs) = .error e) ↔
      ∃ t ∈ cs, ∃ c ∈ t, Utf8.isStray c = true := by
  rw [Utf8.encodeEscaped_error_iff]
  constructor
  · rintro ⟨c, hc, hstray⟩
    rcases Insertion.mem_of_mem_splice hc with hc | ⟨p, hp, hc⟩
    · rw [hu] at hc
      rw [Utf8.isStray_decodeEscaped hc] at hstray
      cases hstray
    · obtain ⟨t, ht, hpt⟩ := Insertion.exists_of_mem_pieces hp
      rw [hpt] at hc
      rcases List.mem_append.mp hc with hc | hc
      · exact ⟨t, ht, c, hc, hstray⟩
      · obtain ⟨bytes, hbytes⟩ := (LineEnding.dominant u.source).encodeEscaped_text
        rw [(Utf8.encodeEscaped_eq_ok.mp hbytes).1 c hc] at hstray
        cases hstray
  · rintro ⟨t, ht, c, hc, hstray⟩
    exact ⟨c, Insertion.mem_splice_pieces hlen ht hc 0, hstray⟩

/-! ## Every failure that passes is one of these -/

/-- What passes once the declarations are located. -/
theorem Completion.escapes {e : Failure} {w' : World} (hsound : Sound parser w.disk)
    (hs : Started i key source client) (hl : Located parser w (.ofText source) u ds)
    (h : Completion client .standard u ds (outputPath w)
      (loading (consented i w) (.ofText source)) (.error e, w'))
    (he : e.isReported = false) : Escapes parser i w := by
  cases h with
  | stopped hrun =>
    obtain ⟨before, d, later, rs, cs, left, n, rfl, ha, hstop, -⟩ := stops_of_exec_annotate hrun
    cases hstop with
    | outside hout =>
      have hin := hsound.stop_le hl d (by simp)
      omega
    | unasked _ hask =>
      refine .unaskable hs hl ha fun haskable => ?_
      obtain ⟨r, hr⟩ := (Generation.ask_ok_iff hs.closed).mpr haskable
      rw [hask] at hr
      cases hr
    | unanswered _ hask hreceive =>
      obtain ⟨reply, ho, hderails⟩ := Client.receive_unreported_iff.mp ⟨e, hreceive, he⟩
      exact .reply hs hl ha hask ho hderails
  | unwritable ha hencode =>
    exact .comment hs hl ha
      ((encodeEscaped_rewriting_error_iff hl.source_eq ha.length_comments).mp ⟨_, hencode⟩)
  | unsaved ha hencode hw => exact .output ⟨hs, hl, ⟨_, ha⟩, hencode⟩ hw

theorem FileCourse.escapes {e : Failure} {w' : World} (hsound : Sound parser w.disk)
    (hs : Started i key source client)
    (h : FileCourse parser client (.ofText source) (outputPath w) .standard (consented i w)
      (.error e, w'))
    (he : e.isReported = false) : Escapes parser i w := by
  cases h with
  | untold hf => exact .path hs (Disk.isFile_error_iff.mp ⟨_, hf⟩)
  | unread hf ha =>
    rcases analyse_cases parser w.disk w.cwd (Path.ofText source).text with
      ⟨e', hfile, -⟩ | ⟨-, hnone⟩ | ⟨raw, hread, hsome⟩
    · exact .normalForm hs hf (Disk.isFile_error_iff.mp ⟨e', hfile⟩)
    · cases hnone.symm.trans ha
    · have herror := hsome.symm.trans ha
      obtain ⟨place, -, hentry⟩ := Disk.exists_place_of_read hread
      cases hds : (SourceUnit.ofFile parser (some (Path.normalise (Path.text ⟨1, w.cwd⟩)
          (Path.ofText source).text).text) raw).declarations with
      | ok ds =>
        rw [hds] at herror
        cases herror
      | error e' =>
        rw [hds] at herror
        cases herror
        rw [isReported_of_declarations (hsound place raw hentry) hds] at he
        cases he
  | located hl hc => exact hc.escapes hsound hs ⟨hl.isFile, hl.analysed⟩ he

theorem Course.escapes {e : Failure} {w' : World} (hsound : Sound parser w.disk)
    (h : Course parser i w (.error e, w')) : Escapes parser i w := by
  cases h with
  | sourceless ha => exact .sourceless ha
  | unopened ha hs he => exact .key ha hs (Client.new_error_iff.mp ⟨_, he⟩)
  | passed hs hf hp => exact hf.escapes hsound hs (hp e rfl)

/-! ## Each of these passes -/

theorem FileCourse.fails {e : Failure} {w' : World} (hs : Started i key source client)
    (h : FileCourse parser client (.ofText source) (outputPath w) .standard (consented i w)
      (.error e, w'))
    (he : e.isReported = false) : ∃ e, (Action.exec (run parser i) w).1 = .error e := by
  have hcourse : Course parser i w (.error e, w') := .passed hs h fun e' h => by
    cases h
    exact he
  rw [hcourse.exec]
  exact ⟨e, rfl⟩

theorem Completion.fails {e : Failure} {w' : World} (hs : Started i key source client)
    (hl : Located parser w (.ofText source) u ds)
    (h : Completion client .standard u ds (outputPath w)
      (loading (consented i w) (.ofText source)) (.error e, w'))
    (he : e.isReported = false) : ∃ e, (Action.exec (run parser i) w).1 = .error e :=
  FileCourse.fails hs (.located ⟨hl.isFile, hl.analysed⟩ h) he

/-- A declaration that stops the annotation with a failure that is not expected stops the run. -/
theorem fails_of_stops {before later : List Declaration} {d : Declaration} {rs : List Request}
    {e : Failure} {left : List Event} (hs : Started i key source client)
    (hl : Located parser w (.ofText source) u (before ++ d :: later))
    (ha : Generation.AnsweredInTurn client .standard u.source w.outcome before rs cs)
    (hstops : Generation.Stops client .standard u.source (loading (consented i w) (.ofText source))
      (w.outcome before.length) d e left)
    (he : e.isReported = false) : ∃ e, (Action.exec (run parser i) w).1 = .error e := by
  have ha' : Generation.AnsweredInTurn client .standard u.source
      (loading (consented i w) (.ofText source)).outcome before rs cs := ha
  obtain ⟨n, hrun⟩ := Generation.exec_annotate_stops (u := u) later
    (LineEnding.dominant u.source).text ha' hstops
  exact Completion.fails hs hl (.stopped hrun) he

theorem Escapes.fails (hsound : Sound parser w.disk) (h : Escapes parser i w) :
    ∃ e, (Action.exec (run parser i) w).1 = .error e := by
  cases h with
  | sourceless ha =>
    rw [(Course.sourceless ha).exec]
    exact ⟨_, rfl⟩
  | key ha hs hkey =>
    obtain ⟨e, he⟩ := Client.new_error_iff.mpr hkey
    rw [(Course.unopened ha hs he).exec]
    exact ⟨_, rfl⟩
  | path hs hlong =>
    obtain ⟨e, hf⟩ := Disk.isFile_error_iff.mpr hlong
    exact FileCourse.fails hs (.untold hf) rfl
  | @normalForm key source client hs hf hlong =>
    obtain ⟨e, hn⟩ := Disk.isFile_error_iff.mpr hlong
    refine FileCourse.fails (e := .disk e) hs (.unread hf ?_) rfl
    rcases analyse_cases parser w.disk w.cwd (Path.ofText source).text with
      ⟨e', hfile, ha⟩ | ⟨hfile, -⟩ | ⟨raw, hread, -⟩
    · cases hn.symm.trans hfile
      exact ha
    · cases hn.symm.trans hfile
    · cases hn.symm.trans (Disk.isFile_of_read hread)
  | @unaskable key source client u before later d rs cs hs hl ha hn =>
    have hin := hsound.stop_le hl d (by simp)
    cases hask : Generation.ask client .standard u.source d with
    | ok r => exact absurd ((Generation.ask_ok_iff hs.closed).mp ⟨r, hask⟩) hn
    | error e =>
      exact fails_of_stops hs hl ha (.unasked hin hask) (Generation.isReported_of_ask hask)
  | @reply key source client u before later d rs cs r reply hs hl ha hask ho hderails =>
    have hin := hsound.stop_le hl d (by simp)
    obtain ⟨e, hreceive, he⟩ := Client.receive_unreported_iff.mpr ⟨reply, ho, hderails⟩
    exact fails_of_stops hs hl ha (.unanswered hin hask hreceive) he
  | comment hs hl ha hstray =>
    obtain ⟨e, he⟩ :=
      (encodeEscaped_rewriting_error_iff hl.source_eq ha.length_comments).mpr hstray
    exact Completion.fails hs hl (.unwritable ha he) rfl
  | output hy hw =>
    obtain ⟨rs, ha⟩ := hy.answered
    exact Completion.fails hy.started hy.located (.unsaved ha hy.encoded hw) rfl

/-! ## Reports -/

/-- Nothing is reported once the declarations are located. -/
theorem Completion.stderr (h : Completion client template u ds dst w out) :
    out.2.stderr = w.stderr := by
  have hasked : ∀ {rs : List Request} {cs : List Text},
      Generation.AnsweredInTurn client template u.source w.outcome ds rs cs →
        (asked w ds rs).stderr = w.stderr := by
    intro rs cs ha
    rw [asked, World.stderr_advance, List.flatMap_append, Generation.found,
      World.flatMap_progress, Generation.flatMap_exchanges ha]
    exact List.append_nil _
  cases h with
  | stopped hrun =>
    obtain ⟨before, d, later, rs, cs, left, n, -, ha, hstop, rfl⟩ := stops_of_exec_annotate hrun
    rw [World.stderr_advance, List.flatMap_append, List.flatMap_append, Generation.found,
      World.flatMap_progress, Generation.flatMap_exchanges ha, hstop.flatMap_report]
    exact List.append_nil _
  | unwritable ha _ => exact hasked ha
  | unsaved ha _ _ => exact hasked ha
  | saved ha _ _ =>
    rw [World.stderr_log, List.flatMap_cons, World.flatMap_progress]
    exact (List.append_nil _).trans (hasked ha)

end

end Command

end DartComments
