import DartComments.Failure

/-!
# What a run does

A run changes a `World`: it prints, reports, sends requests, writes a file. Everything it does is
kept in `trace`, in order, so that what was printed before which request can be read off. The
backend's outcomes are taken one per request; when none is left the request fails.

A computation is a `Run σ`: it may end in a failure, and the state it has reached stays.
-/

namespace DartComments

/-- One POST of a JSON body. -/
structure Request where
  url : Url
  authorization : Text
  timeout : Option Double
  body : Text
deriving DecidableEq

def Request.method : Text := "POST"

def Request.contentType : Text := "application/json"

/-- Something the run did. -/
inductive Event where
  | printed (t : Text)
  | reported (t : Text)
  | sent (r : Request)
  | saved (path : Path) (content : Bytes)

structure World where
  /-- Progress is printed while this counts as true. -/
  verbosity : Json
  /-- What will become of the requests, in order. -/
  outcomes : List Outcome
  cwd : List Text
  disk : Disk
  trace : List Event

namespace World

/-- All that was printed. -/
def stdout (w : World) : Text := w.trace.flatMap fun
  | .printed t => t
  | _ => []

/-- All that was reported. -/
def stderr (w : World) : Text := w.trace.flatMap fun
  | .reported t => t
  | _ => []

/-- The requests that were sent. -/
def requests (w : World) : List Request := w.trace.filterMap fun
  | .sent r => some r
  | _ => none

end World

/-- A computation with a state that survives a failure. -/
abbrev Run (σ : Type) := ExceptT Failure (StateM σ)

abbrev Action := Run World

namespace Action

/-- Notes something that is done. -/
def emit (e : Event) : Action Unit := modify fun w => { w with trace := w.trace ++ [e] }

/-- Prints a line, whatever the verbosity. -/
def printLine (t : Text) : Action Unit := emit (.printed (t ++ "\n"))

/-- Prints a line of progress. -/
def echo (t : Text) : Action Unit := do
  if (← get).verbosity.isTruthy then printLine t

/-- Reports a problem. -/
def report (t : Text) : Action Unit := emit (.reported (t ++ "\n"))

/-- Sends a request and takes the next outcome. -/
def send (r : Request) : Action Outcome := do
  emit (.sent r)
  let w ← get
  match w.outcomes with
  | [] => pure (.failure "no reply left")
  | o :: rest =>
    set { w with outcomes := rest }
    pure o

/-- A result or a failure of its own. -/
def ofExcept {σ ε α : Type} (fail : ε → Failure) : Except ε α → Run σ α
  | .ok a => pure a
  | .error e => throw (fail e)

/-- Writes a file. -/
def writeFile (p : Path) (content : Bytes) : Action Unit := do
  let w ← get
  let disk ← ofExcept .disk (w.disk.write w.cwd p content)
  set { w with disk }
  emit (.saved p content)

/-- Runs from a state. -/
def exec {σ α : Type} (x : Run σ α) (s : σ) : Except Failure α × σ := x.run s

end Action

end DartComments
