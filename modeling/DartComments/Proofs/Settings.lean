import DartComments.Proofs.Result
import DartComments.Proofs.Text.Blank
import DartComments.Settings

/-!
# Settings from the environment

Of an environment only six values count, each without the blanks around it (`stripped`); a blank
value is the same as none. They come to settings in which each of them is taken over or else its
default is (`Granted`), or to the first thing that is wrong with them (`Refused`): the variables
that cannot be read come before the style, and the style before the number of tokens. Both are told
of the six values alone, and exactly one of them applies (`ofEnvironment_outcome`).
-/

namespace DartComments

namespace ApiStyle

theorem ofText?_eq_some {t : Text} {s : ApiStyle} : ofText? t = some s ↔ t = s.text := by
  have hne : text .completion ≠ text .chat := by decide
  rw [ofText?]
  split
  · next h =>
    subst h
    cases s with
    | chat => simp
    | completion => simpa using hne.symm
  · next h =>
    split
    · next h' =>
      subst h'
      cases s with
      | chat => simpa using hne
      | completion => simp
    · next h' => cases s <;> simpa

theorem ofText?_eq_none {t : Text} : ofText? t = none ↔ ∀ s : ApiStyle, t ≠ s.text := by
  rw [Option.eq_none_iff_forall_ne_some]
  exact forall_congr' fun s => not_congr ofText?_eq_some

theorem endpoint_ne_nil (s : ApiStyle) : s.endpoint ≠ [] := by
  cases s <;> decide

end ApiStyle

namespace Settings

/-- The variables that settings are read from. -/
inductive Variable where
  | model
  | maxTokens
  | temperature
  | endpoint
  | style
  | timeout
deriving DecidableEq

namespace Variable

def name : Variable → Text
  | .model => "DARTDOC_MODEL"
  | .maxTokens => "DARTDOC_MAX_TOKENS"
  | .temperature => "DARTDOC_TEMPERATURE"
  | .endpoint => "DARTDOC_ENDPOINT"
  | .style => "DARTDOC_API_STYLE"
  | .timeout => "DARTDOC_TIMEOUT"

/-- All variables in their order. -/
def all : List Variable := [.model, .maxTokens, .temperature, .endpoint, .style, .timeout]

/-- Can the variable have this value? Those that are no numbers can have any. -/
def accepts : Variable → Text → Bool
  | .maxTokens, raw => (Number.readInt? raw).isSome
  | .temperature, raw | .timeout, raw => (Number.readDouble? raw).isSome
  | .model, _ | .endpoint, _ | .style, _ => true

theorem mem_all (v : Variable) : v ∈ all := by
  cases v <;> decide

end Variable

/-- What a variable is set to, without the blanks around it. -/
def stripped (env : Environment) (v : Variable) : Text := ((env.lookup v.name).getD []).strip

/-- The value that a text stands for, or the default if there is no text. -/
inductive Chosen {α : Type} (read? : Text → Option α) (default : α) (raw : Text) : α → Prop
  | given {value : α} : raw ≠ [] → read? raw = some value → Chosen read? default raw value
  | usual : raw = [] → Chosen read? default raw default

section

variable (values : Variable → Text)

/-- Is there a value that the variable cannot have? -/
def isUnreadable (v : Variable) : Bool := ! (values v).isEmpty && ! v.accepts (values v)

/-- The style that is asked for, known or not. -/
def AsksStyle (style : Text) : Prop := Chosen some ApiStyle.chat.text (values .style) style

/-- The number of tokens that is asked for. -/
def AsksTokens (n : Int) : Prop := Chosen Number.readInt? defaultMaxTokens (values .maxTokens) n

/-- The settings that some values ask for. -/
structure Granted (s : Settings) : Prop where
  model : Chosen some defaultModel (values .model) s.model
  maxTokens : AsksTokens values s.maxTokens
  temperature : Chosen Number.readDouble? defaultTemperature (values .temperature) s.temperature
  endpoint : Chosen some s.style.endpoint (values .endpoint) s.endpoint
  style : AsksStyle values s.style.text
  timeout : Chosen (fun raw => (Number.readDouble? raw).map some) none (values .timeout) s.timeout
  maxTokens_pos : 0 < s.maxTokens
  endpoint_ne_nil : s.endpoint ≠ []

/-- The first thing that is wrong with some values. -/
inductive Refused : SettingsError → Prop
  | unreadable {v : Variable} : Variable.all.find? (isUnreadable values) = some v →
      Refused (.unreadable v.name (values v))
  | unknownStyle {style : Text} : (∀ v, isUnreadable values v = false) → AsksStyle values style →
      (∀ s : ApiStyle, style ≠ s.text) → Refused (.unknownStyle style)
  | notPositive {s : ApiStyle} {n : Int} : (∀ v, isUnreadable values v = false) →
      AsksStyle values s.text → AsksTokens values n → n ≤ 0 → Refused (.notPositive n)

end

variable {env : Environment} {values : Variable → Text} {α : Type}

/-! ## Single variables -/

/-- `read?` reads the values that the variable can have. -/
def Variable.ReadBy (v : Variable) (read? : Text → Option α) : Prop :=
  ∀ raw, v.accepts raw = (read? raw).isSome

theorem given?_eq (env : Environment) (v : Variable) : given? env v.name =
    if (stripped env v).isEmpty then none else some (stripped env v) := rfl

theorem readVariable_eq_error {v : Variable} {read? : Text → Option α} {e : SettingsError}
    (hread : v.ReadBy read?) : readVariable env v.name read? = .error e ↔
      isUnreadable (stripped env) v = true ∧ .unreadable v.name (stripped env v) = e := by
  rw [readVariable, given?_eq, isUnreadable, hread]
  cases hraw : (stripped env v).isEmpty with
  | true => simp
  | false => cases h : read? (stripped env v) <;> simp [h]

theorem readVariable_eq_ok {v : Variable} {read? : Text → Option α} {o : Option α} :
    readVariable env v.name read? = .ok o ↔ (stripped env v = [] ∧ o = none) ∨
      (stripped env v ≠ [] ∧ ∃ x, read? (stripped env v) = some x ∧ o = some x) := by
  rw [readVariable, given?_eq]
  cases hraw : stripped env v with
  | nil => simp [eq_comm]
  | cons c raw =>
    rw [if_neg (by simp)]
    cases hx : read? (c :: raw) <;> simp [hx, eq_comm]

theorem chosen_nil {read? : Text → Option α} {default x : α} :
    Chosen read? default [] x ↔ default = x := by
  constructor
  · rintro (⟨hraw, -⟩ | -)
    · exact absurd rfl hraw
    · rfl
  · rintro rfl
    exact .usual rfl

theorem chosen_of_ne_nil {read? : Text → Option α} {default x : α} {raw : Text} (h : raw ≠ []) :
    Chosen read? default raw x ↔ read? raw = some x := by
  constructor
  · rintro (⟨-, hx⟩ | hempty)
    · exact hx
    · exact absurd hempty h
  · intro hx
    exact .given h hx

section

variable {v : Variable} {read? : Text → Option α} {o : Option α}

/-- What is read, or else the default, is what is chosen. -/
theorem chosen_iff (h : readVariable env v.name read? = .ok o) {default x : α} :
    Chosen read? default (stripped env v) x ↔ o.getD default = x := by
  rcases readVariable_eq_ok.mp h with ⟨hraw, rfl⟩ | ⟨hraw, y, hy, rfl⟩
  · rw [hraw, chosen_nil]
    rfl
  · rw [chosen_of_ne_nil hraw, hy, Option.some_inj]
    rfl

theorem chosen_option_iff (h : readVariable env v.name read? = .ok o) {x : Option α} :
    Chosen (fun raw => (read? raw).map some) none (stripped env v) x ↔ o = x := by
  rcases readVariable_eq_ok.mp h with ⟨hraw, rfl⟩ | ⟨hraw, y, hy, rfl⟩
  · rw [hraw, chosen_nil]
  · rw [chosen_of_ne_nil hraw, hy]
    simp

end

/-- A text that is given is not empty. -/
theorem chosen_text_iff {v : Variable} {o : Option Text}
    (h : readVariable env v.name some = .ok o) {default x : Text} :
    Chosen some default (stripped env v) x ↔
      (if (o.getD []).isEmpty then default else o.getD []) = x := by
  rw [chosen_iff h]
  rcases readVariable_eq_ok.mp h with ⟨-, rfl⟩ | ⟨hraw, y, hy, rfl⟩
  · rfl
  · obtain rfl := Option.some.inj hy
    simp [hraw]

theorem Chosen.isUnreadable_eq_false {v : Variable} {read? : Text → Option α} {default x : α}
    (h : Chosen read? default (values v) x) (hread : v.ReadBy read?) :
    isUnreadable values v = false := by
  rw [isUnreadable, hread]
  cases h with
  | given _ hx => simp [hx]
  | usual hempty => simp [hempty]

theorem isUnreadable_eq_false_of_readVariable {v : Variable} {read? : Text → Option α}
    {o : Option α} (hread : v.ReadBy read?) (h : readVariable env v.name read? = .ok o) :
    isUnreadable (stripped env) v = false :=
  ((chosen_option_iff h).mpr rfl).isUnreadable_eq_false fun raw =>
    (hread raw).trans Option.isSome_map.symm

/-! ## All variables -/

/-- What the environment overrides, variable by variable. -/
structure ReadFrom (env : Environment) (o : Overrides) : Prop where
  model : readVariable env (Variable.name .model) some = .ok o.model
  maxTokens : readVariable env (Variable.name .maxTokens) Number.readInt? = .ok o.maxTokens
  temperature :
    readVariable env (Variable.name .temperature) Number.readDouble? = .ok o.temperature
  endpoint : readVariable env (Variable.name .endpoint) some = .ok o.endpoint
  style : readVariable env (Variable.name .style) some = .ok o.style
  timeout : readVariable env (Variable.name .timeout) Number.readDouble? = .ok o.timeout

theorem readFrom_of_overrides {o : Overrides} (h : overrides env = .ok o) : ReadFrom env o := by
  obtain ⟨model, hmodel, h⟩ := bind_eq_ok.mp h
  obtain ⟨maxTokens, hmaxTokens, h⟩ := bind_eq_ok.mp h
  obtain ⟨temperature, htemperature, h⟩ := bind_eq_ok.mp h
  obtain ⟨endpoint, hendpoint, h⟩ := bind_eq_ok.mp h
  obtain ⟨style, hstyle, h⟩ := bind_eq_ok.mp h
  obtain ⟨timeout, htimeout, h⟩ := bind_eq_ok.mp h
  cases h
  exact ⟨hmodel, hmaxTokens, htemperature, hendpoint, hstyle, htimeout⟩

/-- The error is that of the first of some variables that cannot be read. -/
def FailsAtFirst (values : Variable → Text) (vs : List Variable) (e : SettingsError) : Prop :=
  ∃ v, vs.find? (isUnreadable values) = some v ∧ .unreadable v.name (values v) = e

/-- A variable is read before the others. -/
theorem failsAtFirst_cons {β : Type} {v : Variable} {vs : List Variable} {read? : Text → Option α}
    {next : Option α → Except SettingsError β} {e : SettingsError} (hread : v.ReadBy read?)
    (hnext : ∀ o, next o = .error e ↔ FailsAtFirst (stripped env) vs e) :
    (readVariable env v.name read? >>= next) = .error e ↔
      FailsAtFirst (stripped env) (v :: vs) e := by
  rw [bind_eq_error, readVariable_eq_error hread, FailsAtFirst]
  cases ho : readVariable env v.name read? with
  | error e' =>
    have hunreadable := ((readVariable_eq_error hread).mp ho).1
    simp [hunreadable]
  | ok o =>
    have hunreadable := isUnreadable_eq_false_of_readVariable hread ho
    simpa [FailsAtFirst, hunreadable] using hnext o

theorem overrides_eq_error {e : SettingsError} :
    overrides env = .error e ↔ FailsAtFirst (stripped env) Variable.all e := by
  refine failsAtFirst_cons (v := .model) (by intro raw; rfl) fun model => ?_
  refine failsAtFirst_cons (v := .maxTokens) (by intro raw; rfl) fun maxTokens => ?_
  refine failsAtFirst_cons (v := .temperature) (by intro raw; rfl) fun temperature => ?_
  refine failsAtFirst_cons (v := .endpoint) (by intro raw; rfl) fun endpoint => ?_
  refine failsAtFirst_cons (v := .style) (by intro raw; rfl) fun style => ?_
  refine failsAtFirst_cons (v := .timeout) (by intro raw; rfl) fun timeout => ?_
  -- No variable is left that could fail.
  refine iff_of_false nofun ?_
  rintro ⟨v, hv, -⟩
  cases hv

theorem isUnreadable_eq_false_of_find? (h : Variable.all.find? (isUnreadable values) = none)
    (v : Variable) : isUnreadable values v = false := by
  simpa using List.find?_eq_none.mp h v v.mem_all

theorem isUnreadable_eq_false_of_overrides {o : Overrides} (h : overrides env = .ok o)
    (v : Variable) : isUnreadable (stripped env) v = false := by
  cases hfind : Variable.all.find? (isUnreadable (stripped env)) with
  | none => exact isUnreadable_eq_false_of_find? hfind v
  | some u =>
    rw [overrides_eq_error.mpr ⟨u, hfind, rfl⟩] at h
    cases h

theorem exists_overrides (h : ∀ v, isUnreadable (stripped env) v = false) :
    ∃ o, overrides env = .ok o := by
  cases ho : overrides env with
  | ok o => exact ⟨o, rfl⟩
  | error e =>
    obtain ⟨v, hv, -⟩ := overrides_eq_error.mp ho
    have hunreadable := List.find?_some hv
    rw [h v] at hunreadable
    cases hunreadable

/-! ## Putting the settings together -/

section

variable {o : Overrides} {s : Settings} {e : SettingsError}

theorem ofOverrides_of_unknown
    (h : ∀ style : ApiStyle, o.style.getD ApiStyle.chat.text ≠ style.text) :
    ofOverrides o = .error (.unknownStyle (o.style.getD ApiStyle.chat.text)) := by
  rw [ofOverrides, ApiStyle.ofText?_eq_none.mpr h]

/-- The settings with a style that is known. -/
def filled (o : Overrides) (style : ApiStyle) : Settings where
  model := o.model.getD defaultModel
  maxTokens := (o.maxTokens.getD defaultMaxTokens).toNat
  temperature := o.temperature.getD defaultTemperature
  endpoint := if (o.endpoint.getD []).isEmpty then style.endpoint else o.endpoint.getD []
  style := style
  timeout := o.timeout

theorem ofOverrides_of_known {style : ApiStyle}
    (h : o.style.getD ApiStyle.chat.text = style.text) : ofOverrides o =
      if o.maxTokens.getD defaultMaxTokens ≤ 0 then
        .error (.notPositive (o.maxTokens.getD defaultMaxTokens))
      else .ok (filled o style) := by
  rw [ofOverrides, ApiStyle.ofText?_eq_some.mpr h]
  rfl

theorem known_or_unknown (style : Text) :
    (∀ s : ApiStyle, style ≠ s.text) ∨ ∃ s : ApiStyle, style = s.text := by
  by_cases h : ∃ s : ApiStyle, style = s.text
  · exact .inr h
  · exact .inl fun s hs => h ⟨s, hs⟩

theorem ReadFrom.ofOverrides_eq_error (h : ReadFrom env o)
    (hread : ∀ v, isUnreadable (stripped env) v = false) :
    ofOverrides o = .error e ↔ Refused (stripped env) e := by
  constructor
  · intro he
    rcases known_or_unknown (o.style.getD ApiStyle.chat.text) with hunknown | ⟨style, hstyle⟩
    · rw [ofOverrides_of_unknown hunknown] at he
      cases he
      exact .unknownStyle hread ((chosen_iff h.style).mpr rfl) hunknown
    · rw [ofOverrides_of_known hstyle] at he
      split at he
      · next hn =>
        cases he
        have htokens : AsksTokens (stripped env) (o.maxTokens.getD defaultMaxTokens) :=
          (chosen_iff h.maxTokens).mpr rfl
        exact .notPositive hread ((chosen_iff h.style).mpr hstyle) htokens hn
      · cases he
  · intro he
    cases he with
    | unreadable hv =>
      have hunreadable := List.find?_some hv
      rw [hread] at hunreadable
      cases hunreadable
    | unknownStyle _ hstyle hunknown =>
      obtain rfl := (chosen_iff h.style).mp hstyle
      exact ofOverrides_of_unknown hunknown
    | notPositive _ hstyle htokens hn =>
      obtain rfl := (chosen_iff h.maxTokens).mp htokens
      rw [ofOverrides_of_known ((chosen_iff h.style).mp hstyle), if_pos hn]

theorem ReadFrom.granted_filled (h : ReadFrom env o) {style : ApiStyle}
    (hstyle : o.style.getD ApiStyle.chat.text = style.text)
    (hn : 0 < o.maxTokens.getD defaultMaxTokens) : Granted (stripped env) (filled o style) where
  model := (chosen_iff h.model).mpr rfl
  maxTokens := (chosen_iff h.maxTokens).mpr (Int.toNat_of_nonneg (Int.le_of_lt hn)).symm
  temperature := (chosen_iff h.temperature).mpr rfl
  endpoint := (chosen_text_iff h.endpoint).mpr rfl
  style := (chosen_iff h.style).mpr hstyle
  timeout := (chosen_option_iff h.timeout).mpr rfl
  maxTokens_pos := by
    show 0 < (o.maxTokens.getD defaultMaxTokens).toNat
    omega
  endpoint_ne_nil := by
    show (if (o.endpoint.getD []).isEmpty then style.endpoint else o.endpoint.getD []) ≠ []
    split
    · exact style.endpoint_ne_nil
    · next hgiven => simpa using hgiven

theorem ReadFrom.eq_filled (h : ReadFrom env o) (hs : Granted (stripped env) s) :
    s = filled o s.style := by
  rw [filled, (chosen_iff h.maxTokens).mp hs.maxTokens, (chosen_iff h.model).mp hs.model,
    (chosen_iff h.temperature).mp hs.temperature, (chosen_text_iff h.endpoint).mp hs.endpoint,
    (chosen_option_iff h.timeout).mp hs.timeout, Int.toNat_natCast]

theorem ReadFrom.ofOverrides_eq_ok (h : ReadFrom env o) :
    ofOverrides o = .ok s ↔ Granted (stripped env) s := by
  constructor
  · intro hs
    rcases known_or_unknown (o.style.getD ApiStyle.chat.text) with hunknown | ⟨style, hstyle⟩
    · rw [ofOverrides_of_unknown hunknown] at hs
      cases hs
    · rw [ofOverrides_of_known hstyle] at hs
      split at hs
      · cases hs
      · next hn =>
        cases hs
        exact h.granted_filled hstyle (Int.not_le.mp hn)
  · intro hs
    have htokens := (chosen_iff h.maxTokens).mp hs.maxTokens
    have hpos : ¬ (s.maxTokens : Int) ≤ 0 := by
      have := hs.maxTokens_pos
      omega
    rw [ofOverrides_of_known ((chosen_iff h.style).mp hs.style), htokens, if_neg hpos,
      ← h.eq_filled hs]

end

theorem Granted.isUnreadable_eq_false {s : Settings} (h : Granted values s) (v : Variable) :
    isUnreadable values v = false := by
  cases v with
  | model => exact h.model.isUnreadable_eq_false fun _ => rfl
  | maxTokens => exact h.maxTokens.isUnreadable_eq_false fun _ => rfl
  | temperature => exact h.temperature.isUnreadable_eq_false fun _ => rfl
  | endpoint => exact h.endpoint.isUnreadable_eq_false fun _ => rfl
  | style => exact h.style.isUnreadable_eq_false fun _ => rfl
  | timeout => exact h.timeout.isUnreadable_eq_false fun _ => Option.isSome_map.symm

theorem ofEnvironment_eq_ok {s : Settings} :
    ofEnvironment env = .ok s ↔ Granted (stripped env) s := by
  rw [ofEnvironment, bind_eq_ok]
  constructor
  · rintro ⟨o, ho, hs⟩
    exact (readFrom_of_overrides ho).ofOverrides_eq_ok.mp hs
  · intro h
    obtain ⟨o, ho⟩ := exists_overrides h.isUnreadable_eq_false
    exact ⟨o, ho, (readFrom_of_overrides ho).ofOverrides_eq_ok.mpr h⟩

theorem ofEnvironment_eq_error {e : SettingsError} :
    ofEnvironment env = .error e ↔ Refused (stripped env) e := by
  rw [ofEnvironment, bind_eq_error]
  constructor
  · rintro (h | ⟨o, ho, he⟩)
    · obtain ⟨v, hv, rfl⟩ := overrides_eq_error.mp h
      exact .unreadable hv
    · have hread := isUnreadable_eq_false_of_overrides ho
      exact ((readFrom_of_overrides ho).ofOverrides_eq_error hread).mp he
  · intro h
    have hput (hread : ∀ v, isUnreadable (stripped env) v = false) :
        ∃ o, overrides env = .ok o ∧ ofOverrides o = .error e := by
      obtain ⟨o, ho⟩ := exists_overrides hread
      exact ⟨o, ho, ((readFrom_of_overrides ho).ofOverrides_eq_error hread).mpr h⟩
    cases h with
    | unreadable hv => exact .inl (overrides_eq_error.mpr ⟨_, hv, rfl⟩)
    | unknownStyle hread _ _ => exact .inr (hput hread)
    | notPositive hread _ _ _ => exact .inr (hput hread)

example : ofEnvironment [("DARTDOC_MAX_TOKENS", "0"), ("DARTDOC_API_STYLE", "telepathy"),
    ("DARTDOC_TIMEOUT", " soon ")] = .error (.unreadable "DARTDOC_TIMEOUT" "soon") := by
  decide +kernel

/-- Environments with the same six values ask for the same. -/
theorem ofEnvironment_congr {env' : Environment} (h : ∀ v, stripped env' v = stripped env v) :
    ofEnvironment env' = ofEnvironment env := by
  have hvalues : stripped env' = stripped env := funext h
  cases henv : ofEnvironment env with
  | ok s => rw [ofEnvironment_eq_ok, hvalues, ← ofEnvironment_eq_ok, henv]
  | error e => rw [ofEnvironment_eq_error, hvalues, ← ofEnvironment_eq_error, henv]

theorem stripped_eq_nil_iff {v : Variable} : stripped env v = [] ↔
    ∀ raw, env.lookup v.name = some raw → ∀ c ∈ raw, c.isBlank = true := by
  rw [stripped, Text.strip_eq_nil_iff]
  cases env.lookup v.name <;> simp

theorem exists_asksStyle (values : Variable → Text) : ∃ style, AsksStyle values style := by
  by_cases h : values .style = []
  · exact ⟨_, .usual h⟩
  · exact ⟨_, .given h rfl⟩

theorem exists_refused_iff : (∃ e, Refused values e) ↔ (∃ v, isUnreadable values v = true) ∨
    (∃ style, AsksStyle values style ∧ ∀ s : ApiStyle, style ≠ s.text) ∨
      ∃ n, AsksTokens values n ∧ n ≤ 0 := by
  constructor
  · rintro ⟨e, h⟩
    cases h with
    | unreadable hv => exact .inl ⟨_, List.find?_some hv⟩
    | unknownStyle _ hstyle hunknown => exact .inr (.inl ⟨_, hstyle, hunknown⟩)
    | notPositive _ _ htokens hn => exact .inr (.inr ⟨_, htokens, hn⟩)
  · intro h
    cases hfind : Variable.all.find? (isUnreadable values) with
    | some v => exact ⟨_, .unreadable hfind⟩
    | none =>
      have hread := isUnreadable_eq_false_of_find? hfind
      obtain ⟨style, hstyle⟩ := exists_asksStyle values
      rcases known_or_unknown style with hunknown | ⟨s, rfl⟩
      · exact ⟨_, .unknownStyle hread hstyle hunknown⟩
      rcases h with ⟨v, hv⟩ | ⟨style', hstyle', hunknown⟩ | ⟨n, htokens, hn⟩
      · rw [hread v] at hv
        cases hv
      · exact ⟨_, .unknownStyle hread hstyle' hunknown⟩
      · exact ⟨_, .notPositive hread hstyle htokens hn⟩

/-- **Settings from the environment.** They depend on the six values without the blanks around them,
where a blank value is the same as none. They are refused exactly when a number cannot be read, or
the style is unknown, or the number of tokens is not positive, and for the first of these reasons;
otherwise they are what the values ask for. -/
theorem ofEnvironment_outcome (env : Environment) :
    (∀ env', (∀ v, stripped env' v = stripped env v) → ofEnvironment env' = ofEnvironment env) ∧
      (∀ v, stripped env v = [] ↔
        ∀ raw, env.lookup v.name = some raw → ∀ c ∈ raw, c.isBlank = true) ∧
      ((∃ e, ofEnvironment env = .error e) ↔ (∃ v, isUnreadable (stripped env) v = true) ∨
        (∃ style, AsksStyle (stripped env) style ∧ ∀ s : ApiStyle, style ≠ s.text) ∨
          ∃ n, AsksTokens (stripped env) n ∧ n ≤ 0) ∧
      (∀ e, ofEnvironment env = .error e ↔ Refused (stripped env) e) ∧
      ∀ s, ofEnvironment env = .ok s ↔ Granted (stripped env) s := by
  refine ⟨fun _ => ofEnvironment_congr, fun _ => stripped_eq_nil_iff, ?_,
    fun _ => ofEnvironment_eq_error, fun _ => ofEnvironment_eq_ok⟩
  rw [← exists_refused_iff]
  exact exists_congr fun _ => ofEnvironment_eq_error

end Settings

end DartComments
