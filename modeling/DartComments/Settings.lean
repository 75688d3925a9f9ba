import DartComments.Number.Reading
import DartComments.Number.Shortest
import DartComments.Text.Blank
import DartComments.Text.Quoted

/-!
# Generation settings

What to ask of the backend and where it is. Settings start from defaults; the environment can
override each of them with a variable of its own, where a blank value counts as absent. A value
that cannot be read is reported first, in the order of the variables; then an unknown style; then a
number of tokens that is not positive. A missing endpoint is the usual one of the style.
-/

namespace DartComments

/-- A list of messages, or one flat prompt. -/
inductive ApiStyle where
  | chat
  | completion
deriving DecidableEq

namespace ApiStyle

def text : ApiStyle → Text
  | .chat => "chat"
  | .completion => "completion"

def ofText? (t : Text) : Option ApiStyle :=
  if t = text .chat then some .chat
  else if t = text .completion then some .completion
  else none

def endpoint : ApiStyle → Text
  | .chat => "https://api.openai.com/v1/chat/completions"
  | .completion => "https://api.openai.com/v1/completions"

end ApiStyle

structure Settings where
  model : Text
  maxTokens : Nat
  temperature : Double
  endpoint : Text
  style : ApiStyle
  /-- Seconds to wait for a reply; without one the wait has no end. -/
  timeout : Option Double
deriving DecidableEq

inductive SettingsError where
  | unreadable (name raw : Text)
  | notANumber (raw : Text)
  | unknownSetting (name : Text)
  | unknownStyle (style : Text)
  | notPositive (maxTokens : Int)
deriving DecidableEq

def SettingsError.message : SettingsError → Text
  | .unreadable name raw => "Invalid value for " ++ name ++ ": " ++ raw.quoted
  | .notANumber raw => "could not convert string to float: " ++ raw.quoted
  | .unknownSetting name =>
    "GenerationConfig.__init__() got an unexpected keyword argument '" ++ name ++ "'"
  | .unknownStyle style => "Unknown api_style '" ++ style ++ "'. Valid: ['chat', 'completion']"
  | .notPositive n => "max_tokens must be positive, got " ++ Text.ofInt n

/-- The settings that are given; the others keep their defaults. -/
structure Overrides where
  model : Option Text := none
  maxTokens : Option Int := none
  temperature : Option Double := none
  endpoint : Option Text := none
  style : Option Text := none
  timeout : Option Double := none
deriving DecidableEq

namespace Settings

def defaultModel : Text := "gpt-4o-mini"

def defaultMaxTokens : Int := 100

/-- One half. -/
def defaultTemperature : Double := .ofRatio false 1 2

/-- The settings with some of them given. -/
def ofOverrides (o : Overrides) : Except SettingsError Settings :=
  let style := o.style.getD ApiStyle.chat.text
  let maxTokens := o.maxTokens.getD defaultMaxTokens
  match ApiStyle.ofText? style with
  | none => .error (.unknownStyle style)
  | some s =>
    if maxTokens ≤ 0 then .error (.notPositive maxTokens)
    else
      let endpoint := o.endpoint.getD []
      .ok {
        model := o.model.getD defaultModel
        maxTokens := maxTokens.toNat
        temperature := o.temperature.getD defaultTemperature
        endpoint := if endpoint.isEmpty then s.endpoint else endpoint
        style := s
        timeout := o.timeout }

/-! ## Single settings by name -/

/-- The value of a setting given by name. -/
inductive Value where
  | text (t : Text)
  | whole (n : Int)
  | absent

/-- A floating-point setting, which is spelled out. -/
def readNumber (raw : Text) : Except SettingsError Double :=
  match Number.readDouble? raw.strip with
  | some d => .ok d
  | none => .error (.notANumber raw)

/-- Sets one setting; a value of another kind than the setting's leaves it as it is. -/
def set (o : Overrides) (name : Text) (v : Value) : Except SettingsError Overrides :=
  if name = "model" then
    match v with
    | .text t => .ok { o with model := some t }
    | _ => .ok o
  else if name = "max_tokens" then
    match v with
    | .whole n => .ok { o with maxTokens := some n }
    | _ => .ok o
  else if name = "temperature" then
    match v with
    | .text t => (readNumber t).map fun d => { o with temperature := some d }
    | _ => .ok o
  else if name = "endpoint" then
    match v with
    | .text t => .ok { o with endpoint := some t }
    | _ => .ok o
  else if name = "api_style" then
    match v with
    | .text t => .ok { o with style := some t }
    | _ => .ok o
  else if name = "timeout" then
    match v with
    | .text t => (readNumber t).map fun d => { o with timeout := some d }
    | _ => .ok o
  else .error (.unknownSetting name)

/-- Settings given by name. -/
def ofNamed (named : List (Text × Value)) : Except SettingsError Settings := do
  let o ← named.foldlM (fun o nv => set o nv.1 nv.2) {}
  ofOverrides o

/-! ## The environment -/

/-- Environment variables and their values. -/
abbrev Environment := List (Text × Text)

/-- The value of a variable without the blanks around it, if anything is left. -/
def given? (env : Environment) (name : Text) : Option Text :=
  let raw := ((env.lookup name).getD []).strip
  if raw.isEmpty then none else some raw

/-- A variable read with `read?`. -/
def readVariable {α : Type} (env : Environment) (name : Text) (read? : Text → Option α) :
    Except SettingsError (Option α) :=
  match given? env name with
  | none => .ok none
  | some raw =>
    match read? raw with
    | some v => .ok (some v)
    | none => .error (.unreadable name raw)

/-- What the environment overrides. -/
def overrides (env : Environment) : Except SettingsError Overrides := do
  let model ← readVariable env "DARTDOC_MODEL" some
  let maxTokens ← readVariable env "DARTDOC_MAX_TOKENS" Number.readInt?
  let temperature ← readVariable env "DARTDOC_TEMPERATURE" Number.readDouble?
  let endpoint ← readVariable env "DARTDOC_ENDPOINT" some
  let style ← readVariable env "DARTDOC_API_STYLE" some
  let timeout ← readVariable env "DARTDOC_TIMEOUT" Number.readDouble?
  pure { model, maxTokens, temperature, endpoint, style, timeout }

/-- The settings that an environment asks for. -/
def ofEnvironment (env : Environment) : Except SettingsError Settings := do
  let o ← overrides env
  ofOverrides o

/-- Does the environment ask for silence? -/
def quietRequested (env : Environment) : Bool :=
  let value := Text.toLowerAscii ((env.lookup (Text.ofString "DARTDOC_QUIET")).getD []).strip
  [Text.ofString "1", Text.ofString "true", Text.ofString "yes", Text.ofString "on"].contains value

end Settings

end DartComments
