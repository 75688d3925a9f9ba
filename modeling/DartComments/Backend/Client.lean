import DartComments.Json.Writer
import DartComments.Text.Base64
import DartComments.World

/-!
# The completion client

A client holds a key and settings. Each call sends one request and waits for its outcome; nothing
is sent again. The body is written before anything is sent, so a request that cannot be written
leaves no trace. A closed client sends nothing. A reply that tells to go elsewhere is not followed,
but the place it names has to be a URL.
-/

namespace DartComments

structure Client where
  key : Text
  settings : Settings
  closed : Bool := false

namespace Client

/-- The header that carries the key. -/
def bearer (key : Text) : Text := "Bearer " ++ key

/-- The header that carries a name and a password. -/
def basic (name password : Text) : Text :=
  let both : Text := name ++ [.char ':'] ++ password
  "Basic " ++ Base64.encode (both.flatMap Utf8.encodePoint)

/-- A client for a key, which must be ASCII. -/
def new (key : Text) (settings : Settings) : Except Unencodable Client := do
  let _ ← Ascii.encode (bearer key)
  pure { key, settings }

def close (c : Client) : Client := { c with closed := true }

/-- The field of the body that holds the messages. -/
def payload (style : ApiStyle) (messages : Json) : Except Prompt.FlattenError (Text × Json) :=
  match style with
  | .chat => .ok ("messages", messages)
  | .completion => (Prompt.flatten messages).map fun t => ("prompt", .str t)

/-- The body of a request. -/
def requestBody (s : Settings) (messages : Json) : Except Prompt.FlattenError Json := do
  let field ← payload s.style messages
  pure (.obj [("model", .str s.model), ("max_tokens", .int s.maxTokens),
    ("temperature", .float s.temperature), field])

/-- How a request to a URL is authorized: by the name and the password in the URL, or else by the
key. -/
def authorization (c : Client) (u : Url) : Text :=
  let (name, password) := u.credentials
  if name.isEmpty && password.isEmpty then bearer c.key else basic name password

/-- The request for some messages. -/
def request (c : Client) (messages : Json) : Except Failure Request := do
  let body ← (requestBody c.settings messages).mapError .flatten
  let url ← ((Url.ofText c.settings.endpoint).bind Url.target).mapError .url
  let t ← body.write.mapError .unwritable
  let _ ← (Utf8.encode t).mapError .unencodable
  pure ⟨url, c.authorization url, c.settings.timeout, t⟩

/-- Is this a list with something in it? -/
def isNonemptyList : Json → Bool
  | .arr (_ :: _) => true
  | _ => false

/-- Is the place where a reply tells to go a URL? Without a host it has to have a path from the
root. -/
def checkLocation (location : Text) : Except Failure Unit :=
  match Url.ofText location with
  | .error e =>
    .error (.backend (.transport ("Invalid URL in location header: " ++ e.message ++ ".")))
  | .ok u =>
    if !u.scheme.isEmpty && u.host.isEmpty then (Url.checkPath true true u.path).mapError .url
    else .ok ()

/-- The comment that an outcome of a request brings. -/
def receive (c : Client) (r : Request) : Outcome → Except Failure Text
  | .failure why => .error (.backend (.transport why))
  | .reply reply => do
    reply.checkHeaders.mapError .unencodable
    let reply ← reply.unpacked.mapError fun f => .backend (.transport f.message)
    if !r.url.isAbsolute then throw (.relativeUrl r.url.text)
    reply.location?.forM checkLocation
    reply.tooDeep?.forM fun nest => throw (.tooDeep nest)
    match reply.comment c.settings.style with
    | .ok t => pure t
    | .error fault =>
      let body ← reply.text.mapError .text
      throw (.backend (.ofFault fault reply.status body))

/-- Sends the messages and returns the comment that comes back. -/
def generate (c : Client) (messages : Json) : Action Text := do
  if ! isNonemptyList messages then throw .noMessages
  let r ← Action.ofExcept id (c.request messages)
  if c.closed then throw .closed
  let outcome ← Action.send r
  Action.ofExcept id (c.receive r outcome)

end Client

end DartComments
