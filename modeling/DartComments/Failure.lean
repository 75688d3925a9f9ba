import DartComments.Backend.Reply
import DartComments.Disk.Basic
import DartComments.Json.Writer
import DartComments.Prompt.Basic
import DartComments.Tree.Locate
import DartComments.Web.Url

/-!
# Failures

All the ways in which an operation can end without a result, each with the text that is shown.
`isReported` tells the ones that the command reports by itself from those it does not expect.
-/

namespace DartComments

/-- Why a progress line could not be printed. -/
inductive PrintError where
  | unknownOption (name : Text)
  | notText (option kind : Text)
  | notWritable (kind : Text)
deriving DecidableEq

def PrintError.message : PrintError → Text
  | .unknownOption name => "'" ++ name ++ "' is an invalid keyword argument for print()"
  | .notText option kind => option ++ " must be None or a string, not " ++ kind
  | .notWritable kind => "'" ++ kind ++ "' object has no attribute 'write'"

inductive Failure where
  | locate (e : LocateError)
  | backend (e : BackendError)
  | outsideSource (range : SourceRange) (name : Text) (length : Nat)
  | noComment (name : Text)
  | template (e : TemplateError)
  | flatten (e : Prompt.FlattenError)
  | settings (e : SettingsError)
  | unencodable (e : Unencodable)
  | url (e : UrlError)
  | text (e : TextError)
  | tooDeep (nest : Json.Nest)
  /-- A reply came from a URL that is not absolute. -/
  | relativeUrl (address : Text)
  | noMessages
  | unwritable (e : Json.Unwritable)
  | closed
  | noSource
  | disk (e : DiskError)
  | print (e : PrintError)

namespace Failure

def message : Failure → Text
  | .locate e => e.message
  | .backend e => e.message
  | .outsideSource range name length =>
    "Range " ++ range.text ++ " of '" ++ name ++ "' is outside the source (length " ++
      Text.ofNat length ++ ")"
  | .noComment name => "No comment supplied for '" ++ name ++ "'"
  | .template e => e.message
  | .flatten e => e.message
  | .settings e => e.message
  | .unencodable e => e.message
  | .url e => e.message
  | .text e => e.message
  | .tooDeep nest =>
    let what : Text := match nest with
      | .array => "array"
      | .object => "object"
    "maximum recursion depth exceeded while decoding a JSON " ++ what ++ " from a unicode string"
  | .relativeUrl address => "unknown url type: " ++ address.quoted
  | .noMessages =>
    "`messages` must be a non-empty list of \x7b'role','content'\x7d dicts."
  | .unwritable e => e.message
  | .closed => "Cannot send a request, as the client has been closed."
  | .noSource => "expected str, bytes or os.PathLike object, not list"
  | .disk e => e.message
  | .print e => e.message

/-- Is this a failure of the parser, the locator or the backend? The command reports these. -/
def isReported : Failure → Bool
  | .locate (.misparsed ..) | .locate (.unnamed ..) | .locate (.untyped ..) => true
  | .backend _ => true
  | _ => false

end Failure

end DartComments
