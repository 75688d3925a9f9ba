import DartComments.Proofs.Comment.Generation
import DartComments.Proofs.Json.Writer
import DartComments.Proofs.Prompt.Messages

/-!
# Requests that can be sent

A prompt from the standard template always has its messages. There is a request for them exactly
when the endpoint is a URL, the number of tokens is not too long, the temperature is finite, and
neither the model nor the declaration holds a surrogate. What is missing for it is never told by a
failure that the command reports.
-/

namespace DartComments

/-! ## The standard prompt -/

namespace Prompt

/-- The wording of the standard request. -/
def standardParts : List Template.Part :=
  [.text "Generate a docstring for the following dart function, ", .field "name", .text ".\n--\n",
    .field "procedure", .text "\n"]

/-- The standard request for one declaration. -/
def question (name source : Text) : Text :=
  standardParts.flatMap (Template.Part.fill [("name", name), ("procedure", source)])

theorem standardRequest_eq :
    PromptTemplate.standardRequest = standardParts.flatMap Template.Part.write := by
  simp [standardParts, PromptTemplate.standardRequest, Template.Part.write, Template.double,
    Text.ofString, Text.ofChars, Template.openBrace, Template.closeBrace]

theorem request_standard (name source : Text) :
    request .standard name source = .ok (question name source) := by
  have hrequest : PromptTemplate.standard.request = PromptTemplate.standardRequest := rfl
  rw [request, hrequest, standardRequest_eq]
  refine Template.expand_write fun field hf => ?_
  have hfield : field = "name" ∨ field = "procedure" := by simpa [standardParts] using hf
  rcases hfield with rfl | rfl
  · exact ⟨by decide, rfl⟩
  · exact ⟨by decide, rfl⟩

theorem surrogateFree_question {name source : Text} :
    (question name source).SurrogateFree ↔ name.SurrogateFree ∧ source.SurrogateFree := by
  have hquestion : question name source =
      Text.ofString "Generate a docstring for the following dart function, " ++
        (name ++ (Text.ofString ".\n--\n" ++ (source ++ (Text.ofString "\n" ++ [])))) := rfl
  simp [hquestion]

/-- The messages of the standard prompt before the last one. -/
def standardShots : List Message :=
  ⟨.system, PromptTemplate.standard.preamble⟩ :: PromptTemplate.standard.examples.flatMap fun e =>
    [⟨.user, question (exampleName e.1) e.1⟩, ⟨.assistant, e.2⟩]

theorem build_standard (name source : Text) :
    build .standard name source = .ok (standardShots ++ [⟨.user, question name source⟩]) :=
  build_of_request request_standard name source

theorem surrogateFree_standardShots : ∀ m ∈ standardShots, m.content.SurrogateFree := by
  have hname : exampleName "double div(double x, double y) => x / y;" = "div" := by
    decide +kernel
  simp [standardShots, PromptTemplate.standard, surrogateFree_question, hname]

/-- A message of whatever role. -/
def spoken (m : Text × Text) : Json := .obj [("role", .str m.1), ("content", .str m.2)]

theorem map_toJson (ms : List Message) :
    ms.map Message.toJson = (ms.map fun m => (m.role.text, m.content)).map spoken := by
  rw [List.map_map]
  rfl

theorem flattenAll_spoken (ms : List (Text × Text)) : flattenAll (ms.map spoken) =
    .ok (ms.map fun m => "[" ++ m.1 ++ "]\n" ++ m.2 ++ "\n") := by
  induction ms with
  | nil => rfl
  | cons m ms ih =>
    rw [List.map_cons, flattenAll, ih]
    rfl

theorem flatten_spoken (ms : List (Text × Text)) : flatten (.arr (ms.map spoken)) =
    .ok (Text.join (Text.ofString "\n")
      (ms.map fun m => "[" ++ m.1 ++ "]\n" ++ m.2 ++ "\n") ++ "[assistant]\n") := by
  rw [flatten, parts]
  show (flattenAll (ms.map spoken) >>= _) = _
  rw [flattenAll_spoken]
  rfl

theorem sendable_spoken {m : Text × Text} :
    (spoken m).Sendable ↔ m.1.SurrogateFree ∧ m.2.SurrogateFree := by
  simp [spoken]

end Prompt

theorem Role.surrogateFree_text (r : Role) : r.text.SurrogateFree := by
  cases r <;> exact Text.surrogateFree_ofString _

theorem Ascii.encode_error_iff {t : Text} :
    (∃ e, Ascii.encode t = .error e) ↔ ∃ c ∈ t, c.isAscii = false := by
  rw [Ascii.encode]
  cases hf : Unencodable.find? .ascii (! CodePoint.isAscii ·) (! CodePoint.isAscii ·) 0 t with
  | none =>
    have hall := Utf8.find?_eq_none.mp hf
    simpa using hall
  | some e =>
    refine iff_of_true ⟨e, rfl⟩ ?_
    refine Classical.byContradiction fun hnone => ?_
    rw [Utf8.find?_eq_none.mpr (by simpa using hnone)] at hf
    cases hf

namespace Client

/-- There is no client for a key that is not ASCII. -/
theorem new_error_iff {key : Text} {settings : Settings} :
    (∃ e, Client.new key settings = .error e) ↔ ∃ c ∈ key, c.isAscii = false := by
  have hbearer : (∃ c ∈ bearer key, c.isAscii = false) ↔ ∃ c ∈ key, c.isAscii = false := by
    have hword : ∀ c ∈ Text.ofString "Bearer ", c.isAscii = true := by decide
    constructor
    · rintro ⟨c, hc, hascii⟩
      rcases List.mem_append.mp hc with hc | hc
      · rw [hword c hc] at hascii
        cases hascii
      · exact ⟨c, hc, hascii⟩
    · rintro ⟨c, hc, hascii⟩
      exact ⟨c, List.mem_append_right _ hc, hascii⟩
  rw [← hbearer, ← Ascii.encode_error_iff, Client.new]
  cases Ascii.encode (bearer key) <;> simp [bind, Except.bind, pure, Except.pure]

/-- Messages can be sent in either style when their roles and contents can. -/
theorem payload_spoken (style : ApiStyle) (ms : List (Text × Text)) :
    ∃ name v, payload style (.arr (ms.map Prompt.spoken)) = .ok (name, v) ∧
      name.SurrogateFree ∧ (v.Sendable ↔ ∀ m ∈ ms, m.1.SurrogateFree ∧ m.2.SurrogateFree) := by
  cases style with
  | chat =>
    refine ⟨"messages", .arr (ms.map Prompt.spoken), rfl, by simp, ?_⟩
    rw [Json.sendable_arr, List.forall_mem_map]
    simp only [Prompt.sendable_spoken]
  | completion =>
    rw [payload, Prompt.flatten_spoken]
    refine ⟨"prompt", .str _, rfl, by simp, ?_⟩
    rw [Json.sendable_str, Text.surrogateFree_append, Text.surrogateFree_join (by simp),
      List.forall_mem_map]
    simp only [Text.surrogateFree_append, Text.surrogateFree_ofString, true_and, and_true]

theorem requestBody_spoken (s : Settings) (ms : List (Text × Text)) :
    ∃ body, requestBody s (.arr (ms.map Prompt.spoken)) = .ok body ∧
      (body.Sendable ↔ (Text.ofNat s.maxTokens).length ≤ Number.digitLimit ∧
        s.temperature.isFinite = true ∧ s.model.SurrogateFree ∧
        ∀ m ∈ ms, m.1.SurrogateFree ∧ m.2.SurrogateFree) := by
  obtain ⟨name, v, hpayload, hname, hv⟩ := payload_spoken s.style ms
  rw [requestBody, hpayload]
  refine ⟨_, rfl, ?_⟩
  simp [hname, hv, and_left_comm]

/-- What a request is made of. -/
theorem request_eq_ok {c : Client} {messages : Json} {r : Request} :
    c.request messages = .ok r ↔ ∃ body, requestBody c.settings messages = .ok body ∧
      (Url.ofText c.settings.endpoint).bind Url.target = .ok r.url ∧ body.write = .ok r.body ∧
      r.body.SurrogateFree ∧ r.authorization = c.authorization r.url ∧
      r.timeout = c.settings.timeout := by
  rw [request]
  constructor
  · intro h
    obtain ⟨body, hbody, h⟩ := bind_eq_ok.mp h
    obtain ⟨url, hurl, h⟩ := bind_eq_ok.mp h
    obtain ⟨t, hwrite, h⟩ := bind_eq_ok.mp h
    obtain ⟨_, hencode, h⟩ := bind_eq_ok.mp h
    rw [mapError_eq_ok] at hbody hurl hwrite hencode
    cases h
    exact ⟨body, hbody, hurl, hwrite, Utf8.encode_ok_iff.mp ⟨_, hencode⟩, rfl, rfl⟩
  · rintro ⟨body, hbody, hurl, hwrite, hfree, hauth, htimeout⟩
    obtain ⟨_, hencode⟩ := Utf8.encode_ok_iff.mpr hfree
    refine bind_eq_ok.mpr ⟨body, mapError_eq_ok.mpr hbody, ?_⟩
    refine bind_eq_ok.mpr ⟨r.url, mapError_eq_ok.mpr hurl, ?_⟩
    refine bind_eq_ok.mpr ⟨r.body, mapError_eq_ok.mpr hwrite, ?_⟩
    refine bind_eq_ok.mpr ⟨_, mapError_eq_ok.mpr hencode, ?_⟩
    rw [← hauth, ← htimeout]
    rfl

/-- There is a request for some messages when the endpoint, the settings and the messages allow
it. -/
theorem request_spoken_ok_iff {c : Client} {ms : List (Text × Text)} :
    (∃ r, c.request (.arr (ms.map Prompt.spoken)) = .ok r) ↔
      (∃ url, (Url.ofText c.settings.endpoint).bind Url.target = .ok url) ∧
        (Text.ofNat c.settings.maxTokens).length ≤ Number.digitLimit ∧
        c.settings.temperature.isFinite = true ∧ c.settings.model.SurrogateFree ∧
        ∀ m ∈ ms, m.1.SurrogateFree ∧ m.2.SurrogateFree := by
  obtain ⟨body, hbody, hsendable⟩ := requestBody_spoken c.settings ms
  rw [← hsendable]
  constructor
  · rintro ⟨r, hr⟩
    obtain ⟨_, hbody', hurl, hwrite, hfree, -⟩ := request_eq_ok.mp hr
    rw [hbody] at hbody'
    cases hbody'
    exact ⟨⟨_, hurl⟩, _, hwrite, hfree⟩
  · rintro ⟨⟨url, hurl⟩, t, hwrite, hfree⟩
    exact ⟨⟨url, c.authorization url, c.settings.timeout, t⟩,
      request_eq_ok.mpr ⟨body, hbody, hurl, hwrite, hfree, rfl, rfl⟩⟩

theorem request_toJson_ok_iff {c : Client} {ms : List Message} :
    (∃ r, c.request (.arr (ms.map Message.toJson)) = .ok r) ↔
      (∃ url, (Url.ofText c.settings.endpoint).bind Url.target = .ok url) ∧
        (Text.ofNat c.settings.maxTokens).length ≤ Number.digitLimit ∧
        c.settings.temperature.isFinite = true ∧ c.settings.model.SurrogateFree ∧
        ∀ m ∈ ms, m.content.SurrogateFree := by
  rw [Prompt.map_toJson, request_spoken_ok_iff]
  simp [Role.surrogateFree_text]

/-- The command does not report that there is no request. -/
theorem isReported_of_request {c : Client} {messages : Json} {e : Failure}
    (h : c.request messages = .error e) : e.isReported = false := by
  rw [request] at h
  rcases bind_eq_error.mp h with hbody | ⟨body, -, h⟩
  · obtain ⟨_, -, rfl⟩ := mapError_eq_error.mp hbody
    rfl
  rcases bind_eq_error.mp h with hurl | ⟨url, -, h⟩
  · obtain ⟨_, -, rfl⟩ := mapError_eq_error.mp hurl
    rfl
  rcases bind_eq_error.mp h with hwrite | ⟨t, -, h⟩
  · obtain ⟨_, -, rfl⟩ := mapError_eq_error.mp hwrite
    rfl
  rcases bind_eq_error.mp h with hencode | ⟨_, -, h⟩
  · obtain ⟨_, -, rfl⟩ := mapError_eq_error.mp hencode
    rfl
  · cases h

end Client

namespace Generation

variable {client : Client} {template : PromptTemplate} {source : Text} {d : Declaration}

/-- The command does not report that a declaration cannot be asked about. -/
theorem isReported_of_ask {e : Failure} (h : ask client template source d = .error e) :
    e.isReported = false := by
  rw [ask] at h
  rcases bind_eq_error.mp h with hbuild | ⟨messages, -, h⟩
  · obtain ⟨_, -, rfl⟩ := mapError_eq_error.mp hbuild
    rfl
  rcases bind_eq_error.mp h with hrequest | ⟨r, -, h⟩
  · exact Client.isReported_of_request hrequest
  · split at h
    · cases h
      rfl
    · cases h

/-- A declaration can be asked about with the standard prompt. -/
@[mk_iff]
structure Askable (client : Client) (source : Text) (d : Declaration) : Prop where
  endpoint : ∃ url, (Url.ofText client.settings.endpoint).bind Url.target = .ok url
  tokens : (Text.ofNat client.settings.maxTokens).length ≤ Number.digitLimit
  temperature : client.settings.temperature.isFinite = true
  model : client.settings.model.SurrogateFree
  name : d.name.SurrogateFree
  code : (d.sourceText source).SurrogateFree

theorem ask_ok_iff (h : client.closed = false) :
    (∃ r, ask client .standard source d = .ok r) ↔ Askable client source d := by
  let messages := Prompt.standardShots ++
    [Message.mk .user (Prompt.question d.name (d.sourceText source))]
  have hask : ask client .standard source d =
      client.request (.arr (messages.map Message.toJson)) := by
    rw [ask, Prompt.build_standard, h]
    show (client.request _ >>= pure) = _
    exact bind_pure _
  have hcontents : (∀ m ∈ messages, m.content.SurrogateFree) ↔
      d.name.SurrogateFree ∧ (d.sourceText source).SurrogateFree := by
    rw [List.forall_mem_append, List.forall_mem_singleton, Prompt.surrogateFree_question]
    exact and_iff_right Prompt.surrogateFree_standardShots
  rw [hask, Client.request_toJson_ok_iff, hcontents, askable_iff]

/-- A declaration is asked about at the endpoint. -/
theorem url_of_ask {r : Request} (h : ask client template source d = .ok r) :
    (Url.ofText client.settings.endpoint).bind Url.target = .ok r.url := by
  rw [ask] at h
  obtain ⟨messages, -, h⟩ := bind_eq_ok.mp h
  obtain ⟨r', hr, h⟩ := bind_eq_ok.mp h
  split at h
  · cases h
  · cases h
    obtain ⟨-, -, hurl, -⟩ := Client.request_eq_ok.mp hr
    exact hurl

end Generation

end DartComments
