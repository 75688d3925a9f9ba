import DartComments.Charset.Basic
import DartComments.Compression.Envelope
import DartComments.Json.Depth
import DartComments.Settings
import DartComments.Web.MediaType

/-!
# Replies of the backend

A request ends in a reply or in a failure of the transport. A reply carries a comment when its
status is 200 and its body is a JSON object whose `choices` start with an object that holds the
text: in `message.content` for the chat style, in `text` for the completion style. Every other
outcome is a `BackendError`, which keeps the status and the body's text.
-/

namespace DartComments

structure Reply where
  status : Nat
  headers : List (Text × Text)
  body : Bytes

inductive Outcome where
  | reply (r : Reply)
  | failure (why : Text)

/-! ## The body -/

/-- Why a body has no text. -/
inductive TextError where
  | mediaType (e : MediaType.Unreadable)
  | charset (e : CharsetError)
deriving DecidableEq

def TextError.message : TextError → Text
  | .mediaType e => e.message
  | .charset e => e.message

namespace Reply

/-- The value of a header, whatever the case of its name. The values of a header that comes more
than once are joined. -/
def header? (r : Reply) (name : Text) : Option Text :=
  match (r.headers.filter fun h => h.1.toLowerAscii = name).map (·.2) with
  | [] => none
  | values => some (Text.join ", " values)

/-- Statuses that tell to go elsewhere. -/
def redirects : List Nat := [301, 302, 303, 307, 308]

/-- Where a reply tells to go. -/
def location? (r : Reply) : Option Text :=
  if redirects.contains r.status then r.header? "location" else none

/-- A transport that gives its headers as text can give ASCII only: with any other character it
makes no reply at all. The client does not look at this, and headers that come over the wire as
bytes always pass. -/
def checkHeaders (r : Reply) : Except Unencodable Unit :=
  r.headers.forM fun h => do
    let _ ← Ascii.encode h.1
    let _ ← Ascii.encode h.2

/-- How the body is packed, the first packing first. -/
def codings (r : Reply) : List Coding :=
  let names := ((r.header? "content-encoding").map (Text.splitOn (.char ','))).getD []
  names.filterMap fun n => Coding.ofName? (Text.strip n).toLowerAscii

/-- The reply with its body unpacked. -/
def unpacked (r : Reply) : Except StreamFault Reply := do
  let body ← r.codings.reverse.foldlM (fun bytes c => c.decode bytes) r.body
  pure { r with body }

/-- The charset that the content type names; an unknown one is UTF-8. -/
def charset (r : Reply) : Except TextError Charset := do
  match r.header? "content-type" with
  | none => pure .utf8
  | some contentType =>
    match ← (MediaType.charset? contentType).mapError .mediaType with
    | none => pure .utf8
    | some name =>
      let charset ← (Charset.ofName name).mapError .charset
      pure (charset.getD .utf8)

/-- The body's text. There is nothing to read in no bytes, whatever the charset. -/
def text (r : Reply) : Except TextError Text := do
  if r.body.isEmpty then pure []
  else
    let charset ← r.charset
    (charset.decode r.body).mapError .charset

end Reply

/-! ## Errors -/

/-- What is wrong with a body. -/
inductive Malformed where
  | notJson
  | notAnObject
  | noChoices
  | noText
deriving DecidableEq

def Malformed.text : Malformed → Text
  | .notJson => "not JSON"
  | .notAnObject => "not a JSON object"
  | .noChoices => "no choices"
  | .noText => "no text in first choice"

/-- What is wrong with a reply. -/
inductive Fault where
  | status
  | malformed (what : Malformed)
deriving DecidableEq

inductive BackendError where
  | transport (why : Text)
  | status (code : Nat) (body : Text)
  | malformed (what : Malformed) (code : Nat) (body : Text)
  /-- An error told by another source of comments. -/
  | told (message : Text) (code : Option Int) (body : Text)
deriving DecidableEq

namespace BackendError

/-- The error for a fault of a reply. -/
def ofFault (fault : Fault) (code : Nat) (body : Text) : BackendError :=
  match fault with
  | .status => .status code body
  | .malformed what => .malformed what code body

def message : BackendError → Text
  | .transport why => "Request failed with error: " ++ why ++ "."
  | .status code body => "Request failed with status: " ++ Text.ofNat code ++ " " ++ body
  | .malformed what _ body => "Malformed response (" ++ what.text ++ "): " ++ body
  | .told message _ _ => message

/-- The status of the reply, if there was one. -/
def code? : BackendError → Option Int
  | .transport _ => none
  | .status code _ => some code
  | .malformed _ code _ => some code
  | .told _ code _ => code

/-- The text of the reply's body. -/
def body : BackendError → Text
  | .transport _ => []
  | .status _ body => body
  | .malformed _ _ body => body
  | .told _ _ body => body

end BackendError

/-! ## The comment in a reply -/

namespace Reply

/-- The text in the first choice. -/
def choiceText (style : ApiStyle) (choice : List (Text × Json)) : Except Malformed Text :=
  let held := match style with
    | .chat => match Json.lookup "message" choice with
      | some (.obj message) => Json.lookup "content" message
      | _ => none
    | .completion => Json.lookup "text" choice
  match held with
  | some (.str t) => .ok t
  | _ => .error .noText

/-- The comment in a document. -/
def documentText (style : ApiStyle) : Json → Except Malformed Text
  | .obj fields =>
    match Json.lookup "choices" fields with
    | some (.arr (.obj choice :: _)) => choiceText style choice
    | _ => .error .noChoices
  | _ => .error .notAnObject

/-- The comment in a body. -/
def bodyText (style : ApiStyle) (body : Bytes) : Except Malformed Text :=
  match Json.ofBytes? body with
  | some v => documentText style v
  | none => .error .notJson

/-- The array or object of the body at which reading gives up. -/
def tooDeep? (r : Reply) : Option Json.Nest :=
  if r.status ≠ 200 then none else (Json.decode? r.body).bind Json.tooDeep?

/-- The comment in a reply. -/
def comment (style : ApiStyle) (r : Reply) : Except Fault Text :=
  if r.status ≠ 200 then .error .status else (bodyText style r.body).mapError .malformed

end Reply

end DartComments
