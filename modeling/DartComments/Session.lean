import DartComments.Failure

/-!
# Analysis sessions

A session is opened on one path, which is normalised. It analyses that file and nothing else. Units
are read and parsed when they are first asked for; after that the same unit is returned whatever
becomes of the file, and whichever spelling of the path is used.
-/

namespace DartComments

structure Session where
  root : Path
  units : List (Path × SourceUnit)

namespace Session

/-- A session on a path seen from the working directory. -/
def start (cwd : Text) (path : Text) : Session := ⟨Path.normalise cwd path, []⟩

/-- The files to analyse. -/
def files (s : Session) (disk : Disk) (cwd : List Text) : Except Failure (List Path) := do
  let isFile ← (disk.isFile cwd s.root).mapError .disk
  pure (if isFile then [s.root] else [])

/-- Reads and parses a file. -/
def load (parser : Parser) (disk : Disk) (cwd : List Text) (key : Path) :
    Except Failure SourceUnit := do
  let raw ← (disk.read cwd key).mapError .disk
  (SourceUnit.parse parser (some key.text) (Utf8.decodeEscaped raw)).mapError .unencodable

/-- The unit of a path, and the session that remembers it. -/
def unit (s : Session) (parser : Parser) (disk : Disk) (cwd : List Text) (path : Text) :
    Except Failure (SourceUnit × Session) :=
  let key := Path.normalise (Path.text ⟨1, cwd⟩) path
  match s.units.lookup key with
  | some u => .ok (u, s)
  | none => do
    let u ← load parser disk cwd key
    pure (u, { s with units := s.units ++ [(key, u)] })

end Session

/-- The unit of the file at a path and its declarations, if there is a file. -/
def analyse (parser : Parser) (disk : Disk) (cwd : List Text) (path : Text) :
    Except Failure (Option (SourceUnit × List Declaration)) := do
  let s := Session.start (Path.text ⟨1, cwd⟩) path
  match ← s.files disk cwd with
  | [] => pure none
  | file :: _ => do
    let (u, _) ← s.unit parser disk cwd file.text
    let ds ← u.declarations.mapError .locate
    pure (some (u, ds))

end DartComments
