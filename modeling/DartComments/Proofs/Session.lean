import DartComments.Proofs.Disk.Basic
import DartComments.Proofs.Result
import DartComments.Proofs.Text.Utf8
import DartComments.Session

/-!
# Analysing a file

A session on a path that names a file opens that file under its full path, whatever spelling it was
given, and the bytes that the parser sees are the bytes of the file.
-/

namespace DartComments

/-- The unit of a file with some content. -/
def SourceUnit.ofFile (parser : Parser) (path : Option Text) (raw : Bytes) : SourceUnit :=
  ⟨path, Utf8.decodeEscaped raw, raw, parser raw⟩

theorem SourceUnit.parse_decodeEscaped (parser : Parser) (path : Option Text) (raw : Bytes) :
    SourceUnit.parse parser path (Utf8.decodeEscaped raw) = .ok (.ofFile parser path raw) := by
  rw [SourceUnit.parse, Utf8.encodeEscaped_decodeEscaped]
  rfl

theorem Session.load_of_read (parser : Parser) {disk : Disk} {cwd : List Text} {key : Path}
    {raw : Bytes} (h : disk.read cwd key = .ok raw) :
    Session.load parser disk cwd key = .ok (.ofFile parser (some key.text) raw) := by
  rw [Session.load, h]
  show (SourceUnit.parse parser (some key.text) (Utf8.decodeEscaped raw)).mapError _ = _
  rw [SourceUnit.parse_decodeEscaped]
  rfl

theorem Session.files_of_read {s : Session} {disk : Disk} {cwd : List Text} {raw : Bytes}
    (h : disk.read cwd s.root = .ok raw) : s.files disk cwd = .ok [s.root] := by
  rw [Session.files, Disk.isFile_of_read h]
  rfl

/-- A new session reads the file of a path in normal form. -/
theorem Session.unit_of_read (parser : Parser) (root : Path) {disk : Disk} {cwd : List Text}
    {key : Path} {raw : Bytes} (hkey : Path.normalise (Path.text ⟨1, cwd⟩) key.text = key)
    (h : disk.read cwd key = .ok raw) :
    ∃ s, Session.unit ⟨root, []⟩ parser disk cwd key.text =
      .ok (.ofFile parser (some key.text) raw, s) := by
  refine ⟨⟨root, [(key, .ofFile parser (some key.text) raw)]⟩, ?_⟩
  rw [Session.unit, hkey]
  show (Session.load parser disk cwd key >>= _) = _
  rw [Session.load_of_read parser h]
  rfl

/-- A path is analysed as the file that its normal form leads to. -/
theorem analyse_of_normalise (parser : Parser) {disk : Disk} {cwd : List Text} {t : Text}
    {key : Path} {raw : Bytes} (hroot : Path.normalise (Path.text ⟨1, cwd⟩) t = key)
    (hkey : Path.normalise (Path.text ⟨1, cwd⟩) key.text = key)
    (hread : disk.read cwd key = .ok raw) : analyse parser disk cwd t =
      ((SourceUnit.ofFile parser (some key.text) raw).declarations.mapError .locate).map fun ds =>
        some (.ofFile parser (some key.text) raw, ds) := by
  have hfiles : Session.files ⟨key, []⟩ disk cwd = .ok [key] := Session.files_of_read hread
  obtain ⟨s, hunit⟩ := Session.unit_of_read parser key hkey hread
  rw [analyse, Session.start, hroot]
  dsimp only
  rw [hfiles]
  dsimp only [bind, Except.bind]
  rw [hunit]
  dsimp only
  cases (SourceUnit.ofFile parser (some key.text) raw).declarations <;> rfl

/-- A path is analysed as what its normal form leads to: nothing that can be told, no file, or a
file, whose declarations are then located. -/
theorem analyse_cases (parser : Parser) (disk : Disk) (cwd : List Text) (t : Text) :
    let key := Path.normalise (Path.text ⟨1, cwd⟩) t
    (∃ e, disk.isFile cwd key = .error e ∧ analyse parser disk cwd t = .error (.disk e)) ∨
      (disk.isFile cwd key = .ok false ∧ analyse parser disk cwd t = .ok none) ∨
      ∃ raw, disk.read cwd key = .ok raw ∧ analyse parser disk cwd t =
        ((SourceUnit.ofFile parser (some key.text) raw).declarations.mapError .locate).map
          fun ds => some (.ofFile parser (some key.text) raw, ds) := by
  intro key
  cases hf : disk.isFile cwd key with
  | error e =>
    refine .inl ⟨e, rfl, ?_⟩
    rw [analyse, Session.start, Session.files, hf]
    rfl
  | ok isFile =>
    cases isFile with
    | false =>
      refine .inr (.inl ⟨rfl, ?_⟩)
      rw [analyse, Session.start, Session.files, hf]
      rfl
    | true =>
      obtain ⟨raw, hread⟩ := Disk.read_of_isFile hf
      exact .inr (.inr ⟨raw, hread, analyse_of_normalise parser rfl
        ((Path.isNormal_normalise (Path.head?_text cwd) t).normalise_text _) hread⟩)

/-- What a path has been analysed as: the file that its normal form leads to. -/
theorem unit_of_analyse {parser : Parser} {disk : Disk} {cwd : List Text} {t : Text}
    {u : SourceUnit} {ds : List Declaration}
    (h : analyse parser disk cwd t = .ok (some (u, ds))) :
    ∃ raw, disk.read cwd (Path.normalise (Path.text ⟨1, cwd⟩) t) = .ok raw ∧
      u = .ofFile parser (some (Path.normalise (Path.text ⟨1, cwd⟩) t).text) raw ∧
      u.declarations = .ok ds := by
  rcases analyse_cases parser disk cwd t with ⟨e, -, he⟩ | ⟨-, hnone⟩ | ⟨raw, hread, hsome⟩
  · rw [he] at h
    cases h
  · rw [hnone] at h
    cases h
  · rw [hsome] at h
    refine ⟨raw, hread, ?_⟩
    cases hds : (SourceUnit.ofFile parser (some (Path.normalise (Path.text ⟨1, cwd⟩) t).text)
        raw).declarations with
    | error e =>
      rw [hds] at h
      cases h
    | ok ds' =>
      rw [hds] at h
      cases h
      exact ⟨rfl, hds⟩

/-- A path that names a file is analysed as that file. -/
theorem analyse_of_names (parser : Parser) {disk : Disk} {cwd place : List Text} {t : Text}
    {raw : Bytes} (h : disk.Names cwd (.ofText t) place raw)
    (hcwd : disk.IsWorkingDirectory cwd) :
    ∃ path, analyse parser disk cwd (Path.ofText t).text =
      ((SourceUnit.ofFile parser path raw).declarations.mapError .locate).map fun ds =>
        some (.ofFile parser path raw, ds) :=
  ⟨_, analyse_of_normalise parser (h.normalise hcwd) (h.normalise_full hcwd) (h.read_full hcwd)⟩

end DartComments
