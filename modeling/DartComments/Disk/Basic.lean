import DartComments.Disk.Path
import DartComments.Text.Quoted
import DartComments.Text.Utf8

/-!
# Files on disk

Files, directories and symbolic links under their full paths. A path is resolved component by
component through the real tree: `..` goes to the parent of where the walk has come to, and a link
is replaced by its target. Writing changes one file and nothing else, or fails.
-/

namespace DartComments

inductive Entry where
  | file (content : Bytes)
  | directory
  | link (target : Text)
deriving DecidableEq

/-- The entries by the components of their full paths; the root directory is always there. -/
structure Disk where
  entries : List (List Text × Entry)

inductive DiskFault where
  | missing
  | notADirectory
  | isADirectory
  | tooManyLinks
  | nameTooLong
  | zeroByte
deriving DecidableEq

/-- A fault at a path as it was given. -/
structure DiskError where
  fault : DiskFault
  path : Text
deriving DecidableEq

/-- The number and the text of a fault that the system tells. -/
def DiskFault.told? : DiskFault → Option (Nat × Text)
  | .missing => some (2, "No such file or directory")
  | .notADirectory => some (20, "Not a directory")
  | .isADirectory => some (21, "Is a directory")
  | .nameTooLong => some (36, "File name too long")
  | .tooManyLinks => some (40, "Too many levels of symbolic links")
  | .zeroByte => none

def DiskError.message (e : DiskError) : Text :=
  match e.fault.told? with
  | some (number, what) =>
    "[Errno " ++ Text.ofNat number ++ "] " ++ what ++ ": " ++ e.path.quoted
  | none => "embedded null byte"

namespace Disk

/-- The entry at a full path. -/
def entry? (d : Disk) (place : List Text) : Option Entry :=
  if place.isEmpty then some .directory else d.entries.lookup place

/-- Sets the entry at a full path. -/
def set (d : Disk) (place : List Text) (e : Entry) : Disk :=
  if d.entries.any (·.1 = place) then
    ⟨d.entries.map fun p => if p.1 = place then (place, e) else p⟩
  else ⟨d.entries ++ [(place, e)]⟩

def erase (d : Disk) (place : List Text) : Disk := ⟨d.entries.filter (·.1 ≠ place)⟩

/-! ## Resolution -/

/-- The most links that one path may lead through. -/
def linkLimit : Nat := 40

/-- The most bytes of a component, and the least number of bytes that is too many for a path. -/
def nameLimit : Nat := 255

def pathLimit : Nat := 4096

/-- The number of bytes of a text. -/
def byteLength (t : Text) : Nat := (t.flatMap Utf8.encodePoint).length

/-- The full path that `todo` leads to from the directory `place`. The last component need not be
there. -/
def resolve (d : Disk) (links : Nat) (place todo : List Text) : Except DiskFault (List Text) :=
  match todo with
  | [] => .ok place
  | c :: rest =>
    if c = Path.dotDot then resolve d links place.dropLast rest
    else if nameLimit < byteLength c then .error .nameTooLong
    else
      let next := place ++ [c]
      match d.entry? next with
      | none => if rest.isEmpty then .ok next else .error .missing
      | some .directory => resolve d links next rest
      | some (.file _) => if rest.isEmpty then .ok next else .error .notADirectory
      | some (.link target) =>
        match links with
        | 0 => .error .tooManyLinks
        | links + 1 =>
          let start := if 0 < Path.leadingSlashes target then [] else place
          resolve d links start (Path.components target ++ rest)
termination_by (links, todo.length)

/-- The full path of a path that may start at the working directory. -/
def locate (d : Disk) (cwd : List Text) (p : Path) : Except DiskFault (List Text) :=
  if p.text.contains (.char '\x00') then .error .zeroByte
  else if pathLimit ≤ byteLength p.text then .error .nameTooLong
  else resolve d linkLimit (if p.isAbsolute then [] else cwd) p.parts

/-- Does a path lead to a file? That cannot be told of a path that is too long. -/
def isFile (d : Disk) (cwd : List Text) (p : Path) : Except DiskError Bool :=
  match d.locate cwd p with
  | .ok place => match d.entry? place with
    | some (.file _) => .ok true
    | _ => .ok false
  | .error .nameTooLong => .error ⟨.nameTooLong, p.text⟩
  | .error _ => .ok false

/-- The content of a file. -/
def read (d : Disk) (cwd : List Text) (p : Path) : Except DiskError Bytes :=
  match d.locate cwd p with
  | .error f => .error ⟨f, p.text⟩
  | .ok place => match d.entry? place with
    | some (.file content) => .ok content
    | some .directory => .error ⟨.isADirectory, p.text⟩
    | _ => .error ⟨.missing, p.text⟩

/-- Writes a file, which may be new; its directory must be there. -/
def write (d : Disk) (cwd : List Text) (p : Path) (content : Bytes) : Except DiskError Disk :=
  match d.locate cwd p with
  | .error f => .error ⟨f, p.text⟩
  | .ok place => match d.entry? place with
    | some .directory => .error ⟨.isADirectory, p.text⟩
    | _ => .ok (d.set place (.file content))

/-- The files below a directory, with their paths from there. -/
def filesBelow (d : Disk) (top : List Text) : List (Text × Bytes) :=
  d.entries.filterMap fun (place, e) =>
    match e with
    | .file content =>
      if top.isPrefixOf place && top.length < place.length then
        some (Text.join [Path.slash] (place.drop top.length), content)
      else none
    | _ => none

end Disk

end DartComments
