import DartComments.Proofs.Command.Course
import DartComments.Proofs.Session
import DartComments.Proofs.Tree.Ranges

/-!
# What is written

From the bytes of a source to the bytes of the result: the source is read, its declarations are
located, a comment comes for each of them, and the result is written. In the end the bytes of the
source are all there, in order, with the bytes of each comment and a line ending put in where its
declaration starts.

    raw[0, b₁] ++ e₁ ++ raw[b₁, b₂] ++ e₂ ++ … ++ eₙ ++ raw[bₙ, …]
-/

namespace DartComments

namespace LineEnding

theorem encodeEscaped_text (e : LineEnding) : ∃ bytes, Utf8.encodeEscaped e.text = .ok bytes := by
  cases e <;> exact ⟨_, rfl⟩

theorem width_text_pos (e : LineEnding) : 0 < Utf8.width e.text := by
  cases e <;> decide

end LineEnding

namespace Command

/-- Comments that can be written can be written with a line ending. -/
theorem exists_encoded {cs : List Text} (h : ∀ c ∈ cs, ∃ e, Utf8.encodeEscaped c = .ok e)
    (ending : LineEnding) : ∃ es : List Bytes,
      List.Forall₂ (fun c e => Utf8.encodeEscaped (c ++ ending.text) = .ok e) cs es := by
  obtain ⟨tail, htail⟩ := ending.encodeEscaped_text
  induction cs with
  | nil => exact ⟨[], .nil⟩
  | cons c cs ih =>
    rw [List.forall_mem_cons] at h
    obtain ⟨⟨e, he⟩, hrest⟩ := h
    obtain ⟨es, hes⟩ := ih hrest
    exact ⟨(e ++ tail) :: es, .cons (Utf8.encodeEscaped_append he htail) hes⟩

/-- A run in which every step gives a result ends well, and has written it. -/
theorem exec_annotateFile {parser : Parser} {client : Client} {src dst : Path}
    {template : PromptTemplate} {w w' : World} {u : SourceUnit} {ds : List Declaration}
    {text : Text} {bytes : Bytes} {disk : Disk}
    (hfile : w.disk.isFile w.cwd src = .ok true)
    (hunit : analyse parser w.disk w.cwd src.text = .ok (some (u, ds)))
    (htext : Action.exec (annotate client u (some ds) template (LineEnding.dominant u.source).text)
      (w.log (w.progress ("Loading source file '" ++ src.text ++ "'..."))) = (.ok text, w'))
    (hbytes : Utf8.encodeEscaped text = .ok bytes)
    (hwrite : w'.disk.write w'.cwd dst bytes = .ok disk) :
    ∃ es, Action.exec (annotateFile parser client src dst template) w =
      (.ok .success, { w' with disk }.log es) := by
  refine ⟨.saved dst bytes :: w'.progress ("Updated source written to " ++ dst.text), ?_⟩
  have hlocated : Located parser w src u ds := ⟨hfile, hunit⟩
  rw [hlocated.exec_annotateFile, complete]
  refine (Action.exec_bind_ok htext _).trans ?_
  rw [hbytes]
  refine (Action.exec_bind_ok (Action.exec_ofExcept_ok _ _ _) _).trans ?_
  refine (Action.exec_bind_ok (Action.exec_writeFile hwrite) _).trans ?_
  refine (Action.exec_bind_ok (Action.exec_echo _ _) _).trans ?_
  rw [World.log_log]
  rfl

/-- The located declarations of a source, and the bytes at which they start, in order. -/
structure Places (parser : Parser) (raw : Bytes) (ds : List Declaration) (bs : List Nat) :
    Prop where
  located : (SourceUnit.ofFile parser none raw).declarations = .ok ds
  declared : List.Forall₂ (fun x d => x.2.declare raw (.ofBytes raw) = .ok d)
    (Locate.heads (parser raw)) ds
  starting : List.Forall₂ (fun x b => x.2.StartsAt b) (Locate.heads (parser raw)) bs
  ordered : bs.Pairwise (· ≤ ·)

theorem places_of_readable {parser : Parser} {raw : Bytes}
    (htree : Locate.Readable raw (parser raw)) : ∃ ds, Places parser raw ds (Locate.starts raw ds) ∧
      ∀ d ∈ ds, d.range.stop ≤ (Utf8.decodeEscaped raw).length := by
  have hreadable : Locate.Readable (SourceUnit.ofFile parser none raw).bytes
      (SourceUnit.ofFile parser none raw).tree := htree
  obtain ⟨ds, hds, hopens⟩ := hreadable.declarations
  exact ⟨ds, ⟨hds, (Locate.declarations_eq_ok.mp hds).2, Locate.starts_of_opens hopens,
    hreadable.starts_pairwise hds⟩, Locate.inside_of_opens hopens⟩

/-- Where a source was read does not matter to its declarations. -/
theorem Places.declarations {parser : Parser} {raw : Bytes} {ds : List Declaration} {bs : List Nat}
    (h : Places parser raw ds bs) (path : Option Text) :
    (SourceUnit.ofFile parser path raw).declarations = .ok ds := by
  obtain ⟨hfault, hall⟩ := Locate.declarations_eq_ok.mp h.located
  exact Locate.declarations_eq_ok.mpr ⟨hfault, hall⟩

/-- **The bytes of the result.** A source that is named without links and has a readable tree, a
place to write to, and a comment for each declaration that can be written: then the run ends well,
and what it has written are the bytes of the source, with the bytes of the comments put in where
their declarations start. -/
theorem annotateFile_splices_bytes (parser : Parser) (client : Client) (template : PromptTemplate)
    (w : World) (t : Text) (dst : Path) (raw : Bytes) (place target : List Text) (cs : List Text)
    (hcwd : w.disk.IsWorkingDirectory w.cwd) (hsrc : w.disk.Names w.cwd (.ofText t) place raw)
    (hdst : w.disk.locate w.cwd dst = .ok target) (hfree : w.disk.entry? target ≠ some .directory)
    (htree : Locate.Readable raw (parser raw))
    (hreplies : ∀ ds, (SourceUnit.ofFile parser none raw).declarations = .ok ds →
      Generation.Replied client template (Utf8.decodeEscaped raw) w.outcome ds cs)
    (henc : ∀ c ∈ cs, ∃ e, Utf8.encodeEscaped c = .ok e) :
    ∃ ds bs es w' out, Places parser raw ds bs ∧
      List.Forall₂ (fun c e => Utf8.encodeEscaped
        (c ++ (LineEnding.dominant (Utf8.decodeEscaped raw)).text) = .ok e) cs es ∧
      bs.length = es.length ∧ out = Insertion.splice raw 0 (bs.zip es) ∧
      Action.exec (annotateFile parser client (.ofText t) dst template) w = (.ok .success, w') ∧
      w.disk.write w.cwd dst out = .ok w'.disk ∧ w'.disk.entry? target = some (.file out) := by
  obtain ⟨path, hanalyse⟩ := analyse_of_names parser hsrc hcwd
  obtain ⟨ds, hplaces, hinside⟩ := places_of_readable htree
  rw [hplaces.declarations path] at hanalyse
  have hreplied := hreplies ds hplaces.located
  obtain ⟨rs, hanswered⟩ := hreplied.answeredInTurn hinside
  obtain ⟨es, hes⟩ := exists_encoded henc (LineEnding.dominant (Utf8.decodeEscaped raw))
  have hbytes := Insertion.encodeEscaped_splice raw hes ds 0
  have hwrite := Disk.write_eq hdst hfree (Insertion.splice raw 0 ((Locate.starts raw ds).zip es))
  have htext := Generation.exec_annotate_answered (u := .ofFile parser path raw)
    (w := w.log (w.progress ("Loading source file '" ++ (Path.ofText t).text ++ "'...")))
    (LineEnding.dominant (Utf8.decodeEscaped raw)).text hanswered
  obtain ⟨events, hrun⟩ := exec_annotateFile (Disk.isFile_of_read hsrc.read) hanalyse htext hbytes
    hwrite
  refine ⟨ds, Locate.starts raw ds, es, _, _, hplaces, hes, ?_, rfl, hrun, hwrite, ?_⟩
  · rw [Locate.starts, List.length_map, ← hreplied.length_eq, hes.length_eq]
  · have hne : target ≠ [] := by
      rintro rfl
      exact hfree rfl
    exact w.disk.entry?_set_self hne _

/-- A character of two bytes, an undecodable byte, a line ending of two, and `@A int f();`. -/
def smallSource : Bytes :=
  [0xC3, 0xA9, 0xFF, 13, 10, 64, 65, 32, 105, 110, 116, 32, 102, 40, 41, 59]

def smallTree : Node :=
  .mk { kind := .other [], start := 0, stop := 16 }
    [Locate.leaf (.other []) 0 3, Locate.leaf .metadata 5 7, Locate.shortSignature 8,
      Locate.leaf .semicolon 15 16]

def smallClient : Client :=
  { key := "k", settings := ⟨"m", 1, .zero false, "http://a/", .chat, none⟩ }

/-- A world with the source at `/w/a` and one reply, whose comment is the character of two bytes. -/
def smallWorld : World :=
  { verbosity := .bool true
    outcomes := [.reply ⟨200, [], [123, 34, 99, 104, 111, 105, 99, 101, 115, 34, 58, 91, 123, 34,
      109, 101, 115, 115, 97, 103, 101, 34, 58, 123, 34, 99, 111, 110, 116, 101, 110, 116, 34, 58,
      34, 0xC3, 0xA9, 34, 125, 125, 93, 125]⟩]
    cwd := ["w"]
    disk := ⟨[(["w"], .directory), (["w", "a"], .file smallSource)]⟩
    trace := [] }

/-- A directory of one letter below the root can be worked in. -/
theorem isWorkingDirectory_w {disk : Disk} (h : disk.entry? ["w"] = some .directory) :
    disk.IsWorkingDirectory ["w"] := by
  refine ⟨fun c hc => ?_, Disk.IsReal.concat .nil (by decide) (by decide) h⟩
  rw [List.mem_singleton.mp hc]
  exact ⟨by decide, by decide⟩

/-- What is in that directory is found there, unless it is a link. -/
theorem locate_w {disk : Disk} {c : Text} (hdir : disk.entry? ["w"] = some .directory)
    (hc : c ≠ Path.dotDot ∧ Disk.byteLength c ≤ Disk.nameLimit) (hp : Disk.Allowed ⟨1, ["w", c]⟩)
    (he : disk.entry? ["w", c] = none ∨ ∃ content, disk.entry? ["w", c] = some (.file content))
    (cwd : List Text) : disk.locate cwd ⟨1, ["w", c]⟩ = .ok ["w", c] :=
  hp.locate (.down (by decide) (by decide) hdir (.last hc.1 hc.2 he))

theorem smallWorld_isWorkingDirectory : smallWorld.disk.IsWorkingDirectory smallWorld.cwd :=
  isWorkingDirectory_w rfl

theorem smallWorld_names :
    smallWorld.disk.Names smallWorld.cwd (.ofText "a") ["w", "a"] smallSource :=
  ⟨.last (by decide) (by decide) (.inr ⟨_, rfl⟩), ⟨rfl, by decide⟩, rfl, ⟨rfl, by decide⟩⟩

theorem smallWorld_target :
    smallWorld.disk.locate smallWorld.cwd ⟨1, ["w", "o"]⟩ = .ok ["w", "o"] :=
  locate_w rfl (by decide) ⟨rfl, by decide⟩ (.inl rfl) _

/-- The small tree has one head, which starts at byte 5. -/
theorem heads_smallTree : ∃ x name type, Locate.heads smallTree = [x] ∧
    x.2.opening?.map Node.start = some 5 ∧ Locate.nameNode? x.2.signature = some name ∧
    Locate.returnType? x.2.signature name = some type :=
  ⟨_, _, _, rfl, rfl, rfl, rfl⟩

theorem smallTree_readable : Locate.Readable smallSource smallTree := by
  refine ⟨⟨?_, by decide, by decide⟩, ?_, rfl, fun p h hh => ?_, ?_⟩
  · simp [smallTree, Locate.leaf, Locate.shortSignature, Node.everywhere_mk, Node.spans_iff,
      Node.start, Node.stop, Node.info, Node.children]
  · have hlist : ((List.range ((Utf8.decodeEscaped smallSource).length + 1)).map fun i =>
        (Utf8.boundary smallSource i : Int)) =
          [0, 2, 3, 4, 5, 6, 7, 8, 9, 10, 11, 12, 13, 14, 15, 16] := rfl
    simp [smallTree, Locate.leaf, Locate.shortSignature, Node.everywhere_mk, Node.OnBoundaries,
      Utf8.exists_isBoundary_iff, hlist, Node.start, Node.stop, Node.info]
  · obtain ⟨x, name, type, hx, -, hname, htype⟩ := heads_smallTree
    rw [hx, List.mem_singleton] at hh
    rw [← hh] at hname htype
    exact ⟨name, type, hname, htype⟩
  · have hbare := Locate.headAt?_leaf .metadata 5 7
    simpa [smallTree, Locate.leaf, Locate.shortSignature, Node.everywhere_mk, Node.kind, Node.info,
      NodeKind.isAttachment, NodeKind.isMetadata, NodeKind.isComment, NodeKind.isModifier]
      using hbare

/-- The small world ends with the comment and a line ending before the metadata. -/
theorem smallWorld_splices_bytes : ∃ w', Action.exec (annotateFile (fun _ => smallTree) smallClient
      (.ofText "a") ⟨1, ["w", "o"]⟩ ⟨"p", [], "q"⟩) smallWorld = (.ok .success, w') ∧
    w'.disk.entry? ["w", "o"] =
      some (.file (smallSource.take 5 ++ [0xC3, 0xA9, 13, 10] ++ smallSource.drop 5)) := by
  have hreplies : ∀ ds, (SourceUnit.ofFile (fun _ => smallTree) none smallSource).declarations =
      .ok ds → Generation.Replied smallClient ⟨"p", [], "q"⟩ (Utf8.decodeEscaped smallSource)
        smallWorld.outcome ds [[.char 'é']] := by
    intro ds hds
    cases hds
    refine ⟨rfl, fun i d c hd hc => ?_⟩
    cases i with
    | zero =>
      cases hd
      cases hc
      exact ⟨_, rfl, rfl⟩
    | succ i => cases hc
  have hencoded : ∀ c ∈ [([.char 'é'] : Text)], ∃ e, Utf8.encodeEscaped c = .ok e := by
    intro c hc
    rw [List.mem_singleton.mp hc]
    exact ⟨_, rfl⟩
  obtain ⟨_, bs, es, w', out, hplaces, hes, -, rfl, hrun, -, hentry⟩ :=
    annotateFile_splices_bytes (fun _ => smallTree) smallClient ⟨"p", [], "q"⟩ smallWorld "a"
      ⟨1, ["w", "o"]⟩ smallSource ["w", "a"] ["w", "o"] [[.char 'é']] smallWorld_isWorkingDirectory
      smallWorld_names smallWorld_target (by decide) smallTree_readable hreplies hencoded
  refine ⟨w', hrun, ?_⟩
  obtain ⟨x, -, -, hx, hstart, -⟩ := heads_smallTree
  have hbs := hplaces.starting
  rw [hx] at hbs
  obtain ⟨b, -, ⟨first, ho, hfirst⟩, ⟨⟩, rfl⟩ := List.forall₂_cons_left_iff.mp hbs
  obtain ⟨e, -, he, ⟨⟩, rfl⟩ := List.forall₂_cons_left_iff.mp hes
  have hb : b = 5 := by
    rw [ho] at hstart
    have : first.start = 5 := Option.some.inj hstart
    omega
  subst hb
  cases he
  exact hentry

end Command

end DartComments
