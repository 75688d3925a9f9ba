import DartComments.Number.Reading
import DartComments.Text.Blank
import DartComments.Text.Lowercase
import DartComments.Text.Quoted
import DartComments.Web.Address
import DartComments.Web.Label
import DartComments.Web.Percent

/-!
# URLs

A URL is cut at its marks into scheme, authority, path, query and fragment, and each part is brought
into the form in which it is sent: the scheme and the host in small letters, the port as a number
unless it is the usual one, the path without dot segments, everything else in percent escapes. A
URL with a scheme and a host is absolute.

    scheme://userinfo@host:port/path?query#fragment
-/

namespace DartComments

structure Url where
  scheme : Text := []
  userinfo : Text := []
  /-- The host; an address of groups is kept without its brackets. -/
  host : Text := []
  port : Option Int := none
  path : Text := []
  query : Option Text := none
  fragment : Option Text := none
deriving DecidableEq

/-- What is wrong with a URL. -/
inductive UrlError where
  | tooLong
  | partTooLong (name : Text)
  | hidden (c : CodePoint) (position : Nat)
  | unencodable (e : Unencodable)
  | notAQuad (host : Text)
  | notGroups (host : Text)
  | notAName (host : Text)
  | notAPort (port : Text)
  | rootless
  | twoSlashes
  | colonFirst
deriving DecidableEq

def UrlError.message : UrlError → Text
  | .tooLong => "URL too long"
  | .partTooLong name => "URL component '" ++ name ++ "' too long"
  | .hidden c position =>
    "Invalid non-printable ASCII character in URL, " ++ Text.quoted [c] ++ " at position " ++
      Text.ofNat position ++ "."
  | .unencodable e => e.message
  | .notAQuad host => "Invalid IPv4 address: " ++ host.quoted
  | .notGroups host => "Invalid IPv6 address: " ++ host.quoted
  | .notAName host => "Invalid IDNA hostname: " ++ host.quoted
  | .notAPort port => "Invalid port: " ++ port.quoted
  | .rootless => "For absolute URLs, path must be empty or begin with '/'"
  | .twoSlashes => "Relative URLs cannot have a path starting with '//'"
  | .colonFirst => "Relative URLs cannot have a path starting with ':'"

namespace Url

/-! ## Cutting -/

def slash : CodePoint := .char '/'

/-- The part before the first `mark`, and what follows the mark if there is one. -/
def cutAt (mark : Char) (t : Text) : Text × Option Text :=
  let before := t.takeWhile (· ≠ .char mark)
  match t.drop before.length with
  | _ :: after => (before, some after)
  | [] => (before, none)

def isSchemePoint : CodePoint → Bool
  | .char c => c.isAlphanum || c = '+' || c = '.' || c = '-'
  | .surrogate _ => false

/-- The scheme before a colon, and what follows. Without one the scheme is empty. -/
def cutScheme (t : Text) : Text × Text :=
  match cutAt ':' t with
  | (scheme, some rest) =>
    match scheme with
    | [] => ([], rest)
    | .char c :: _ => if c.isAlpha && scheme.all isSchemePoint then (scheme, rest) else ([], t)
    | _ => ([], t)
  | (_, none) => ([], t)

/-- The authority after two slashes, and what follows. -/
def cutAuthority (t : Text) : Text × Text :=
  match t with
  | .char '/' :: .char '/' :: rest =>
    let authority := rest.takeWhile fun c => !(Text.ofString "/?#").contains c
    (authority, rest.drop authority.length)
  | _ => ([], t)

/-- The text before the last `mark`, if there is one, and what follows it. -/
def cutAtLast (mark : Char) (t : Text) : Option Text × Text :=
  let after := (t.reverse.takeWhile (· ≠ .char mark)).reverse
  if after.length < t.length then (some (t.take (t.length - after.length - 1)), after)
  else (none, t)

/-- The host of an authority without userinfo, and what follows. A host in brackets goes up to the
last bracket, any other up to the colon. -/
def cutHost (t : Text) : Text × Text :=
  match t, cutAtLast ']' t with
  | .char '[' :: _, (some inner, rest) => (inner ++ [.char ']'], rest)
  | _, _ =>
    let host := t.takeWhile (· ≠ .char ':')
    (host, t.drop host.length)

/-! ## The parts -/

/-- The host as it is sent. -/
def encodeHost (host : Text) : Except UrlError Text :=
  if host.isEmpty then .ok []
  else if Address.hasQuadShape host then
    if Address.isQuad host then .ok host else .error (.notAQuad host)
  else if host.head? = some (.char '[') && host.getLast? = some (.char ']') then
    let inner := (host.drop 1).dropLast
    if Address.isGroups inner then .ok inner else .error (.notGroups host)
  else if host.all CodePoint.isAscii then
    (Percent.encode .host host.toLowerAscii).mapError .unencodable
  else match HostName.encode? host.lower with
    | some name => .ok name
    | none => .error (.notAName host)

/-- The port that a scheme has by itself. -/
def usualPorts : List (Text × Int) :=
  [("ftp", 21), ("http", 80), ("https", 443), ("ws", 80), ("wss", 443)]

/-- The port, if it is given and not the usual one of the scheme, which is looked up as it is
written. -/
def readPort (scheme port : Text) : Except UrlError (Option Int) :=
  if port.isEmpty then .ok none
  else match Number.readInt? (Text.strip port) with
    | none => .error (.notAPort port)
    | some n => .ok (if usualPorts.lookup scheme = some n then none else some n)

/-- Takes one segment of a path after those in `done`, which are in reverse. Two dots take back the
segment before, but not the empty one in front. -/
def addSegment (done : List Text) (segment : Text) : List Text :=
  if segment = "." then done
  else if segment = ".." then
    match done with
    | [[]] => done
    | _ :: before => before
    | [] => []
  else segment :: done

/-- The path without dot segments. -/
def withoutDots (path : Text) : Text :=
  Text.join [slash] (((path.splitOn slash).foldl addSegment []).reverse)

/-- Does a path fit the parts before it? -/
def checkPath (hasScheme hasAuthority : Bool) (path : Text) : Except UrlError Unit :=
  let rooted := path.head? = some slash
  if hasAuthority && !path.isEmpty && !rooted then .error .rootless
  else if hasScheme || hasAuthority then .ok ()
  else if [slash, slash].isPrefixOf path then .error .twoSlashes
  else if path.head? = some (.char ':') then .error .colonFirst
  else .ok ()

/-! ## Reading -/

/-- The longest URL. -/
def maxLength : Nat := 65536

/-- The first code point of ASCII that does not print. -/
def findHidden (t : Text) : Option (CodePoint × Nat) :=
  let hidden (c : CodePoint) : Bool := c.toNat < 0x20 || c.toNat = 0x7F
  match t.findIdx? hidden with
  | some i => (t[i]?).map fun c => (c, i)
  | none => none

/-- The URL of its parts. -/
def ofParts (scheme authority path : Text) (query fragment : Option Text) :
    Except UrlError Url := do
  let (userinfo, rest) := cutAtLast '@' authority
  let (host, rest) := cutHost rest
  let port := if rest.head? = some (.char ':') then rest.drop 1 else rest
  let userinfo ← (Percent.encode .userinfo (userinfo.getD [])).mapError .unencodable
  let host ← encodeHost host
  let port ← readPort scheme port
  let hasScheme := !scheme.isEmpty
  let hasAuthority := !userinfo.isEmpty || !host.isEmpty || port.isSome
  checkPath hasScheme hasAuthority path
  let path := if hasScheme || hasAuthority then withoutDots path else path
  let path ← (Percent.encode .path path).mapError .unencodable
  let query ← (query.mapM (Percent.encode .query)).mapError .unencodable
  let fragment ← (fragment.mapM (Percent.encode .fragment)).mapError .unencodable
  pure { scheme := scheme.toLowerAscii, userinfo, host, port, path, query, fragment }

/-- The URL that a text spells. -/
def ofText (t : Text) : Except UrlError Url :=
  if maxLength < t.length then .error .tooLong
  else match findHidden t with
    | some (c, i) => .error (.hidden c i)
    | none =>
      let (scheme, rest) := cutScheme t
      let (authority, rest) := cutAuthority rest
      let (rest, fragment) := cutAt '#' rest
      let (path, query) := cutAt '?' rest
      ofParts scheme authority path query fragment

/-! ## Writing -/

def authority (u : Url) : Text :=
  let userinfo := if u.userinfo.isEmpty then [] else u.userinfo ++ [.char '@']
  let host :=
    if u.host.contains (.char ':') then .char '[' :: u.host ++ [.char ']'] else u.host
  let port := (u.port.map fun n => .char ':' :: Text.ofInt n).getD []
  userinfo ++ host ++ port

/-- The text of a URL. -/
def text (u : Url) : Text :=
  let scheme := if u.scheme.isEmpty then [] else u.scheme ++ [.char ':']
  let authority := if u.authority.isEmpty then [] else slash :: slash :: u.authority
  let query := (u.query.map (.char '?' :: ·)).getD []
  let fragment := (u.fragment.map (.char '#' :: ·)).getD []
  scheme ++ authority ++ u.path ++ query ++ fragment

/-! ## Use -/

/-- Has the URL a scheme and a host? -/
def isAbsolute (u : Url) : Bool := !u.scheme.isEmpty && !u.host.isEmpty

/-- The URL that a request goes to. Of a URL that is not absolute only path and query are left,
below the root. -/
def target (u : Url) : Except UrlError Url :=
  if u.isAbsolute then .ok u
  else
    let path := slash :: u.path.dropWhile (· = slash)
    if maxLength < path.length then .error (.partTooLong "path")
    else if (u.query.map List.length).any (maxLength < ·) then .error (.partTooLong "query")
    else .ok { path, query := u.query }

/-- The name and the password in the userinfo, without escapes. -/
def credentials (u : Url) : Text × Text :=
  let (name, password) := cutAt ':' u.userinfo
  (Percent.decode name, Percent.decode (password.getD []))

end Url

end DartComments
