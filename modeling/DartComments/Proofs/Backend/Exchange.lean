import DartComments.Proofs.Backend.Reply
import DartComments.Proofs.Json.Depth
import DartComments.Proofs.Settings

/-!
# Texts over the wire

Both ways texts travel as JSON in UTF-8. The body of a request is read back as the settings and the
messages, or the one prompt they are flattened to, whatever characters they hold. A document that is
written in the same way and comes back with status 200 is read back too, so a call returns the very
text of its first choice.
-/

namespace DartComments

/-! ## Settings -/

namespace Settings

/-- Settings that a body can hold. -/
structure Serialisable (s : Settings) : Prop where
  model : s.model.SurrogateFree
  finite : s.temperature.isFinite = true
  /-- As it is in all settings that are given (`Given.wellFormed`). -/
  wellFormed : s.temperature.WellFormed
  /-- Longer numbers are neither written nor read. -/
  tokens : s.maxTokens < 10 ^ Number.digitLimit

theorem Serialisable.length_tokens {s : Settings} (h : s.Serialisable) :
    (Text.ofNat s.maxTokens).length ≤ Number.digitLimit := by
  rw [Text.ofNat, Text.ofChars, List.length_map]
  exact (Nat.length_toDigits_le_iff (by decide) (by decide)).mpr h.tokens

/-- The number that a text spells is well formed. -/
theorem wellFormed_readDouble? {t : Text} {d : Double} (h : Number.readDouble? t = some d) :
    d.WellFormed := by
  obtain ⟨t', -, h⟩ := Option.bind_eq_some_iff.mp h
  dsimp only at h
  split_ifs at h
  · cases h
    trivial
  · cases h
    trivial
  · unfold Number.readDecimal? at h
    dsimp only at h
    split_ifs at h
    obtain ⟨e, -, rfl⟩ := Option.map_eq_some_iff.mp h
    exact Double.wellFormed_ofDecimal _ _ _

theorem wellFormed_defaultTemperature : defaultTemperature.WellFormed :=
  Double.wellFormed_ofRatio false 1 Nat.two_pos

/-- A temperature that is given is well formed. -/
def Tempered (o : Overrides) : Prop := ∀ d, o.temperature = some d → d.WellFormed

theorem wellFormed_ofOverrides {o : Overrides} {s : Settings} (ho : Tempered o)
    (h : ofOverrides o = .ok s) : s.temperature.WellFormed := by
  have hgiven : (o.temperature.getD defaultTemperature).WellFormed := by
    cases htemperature : o.temperature with
    | none => exact wellFormed_defaultTemperature
    | some d => exact ho d htemperature
  unfold ofOverrides at h
  dsimp only at h
  split at h
  · cases h
  · split_ifs at h
    all_goals
      cases h
      exact hgiven

theorem wellFormed_ofEnvironment {env : Environment} {s : Settings}
    (h : ofEnvironment env = .ok s) : s.temperature.WellFormed := by
  have htemperature := (ofEnvironment_eq_ok.mp h).temperature
  generalize s.temperature = d at htemperature ⊢
  cases htemperature with
  | given _ hd => exact wellFormed_readDouble? hd
  | usual _ => exact wellFormed_defaultTemperature

/-- Only the setting of that name changes the temperature. -/
theorem Tempered.set {o o' : Overrides} (ho : Tempered o) {name : Text} {v : Value}
    (h : Settings.set o name v = .ok o') : Tempered o' := by
  have hread : ∀ {t : Text} {f : Double → Overrides}, (readNumber t).map f = .ok o' →
      ∃ d, d.WellFormed ∧ f d = o' := by
    intro t f hmap
    unfold readNumber at hmap
    split at hmap
    · next d hd =>
      cases hmap
      exact ⟨d, wellFormed_readDouble? hd, rfl⟩
    · cases hmap
  have hkeep : ∀ {x : Overrides}, (.ok x : Except SettingsError Overrides) = .ok o' →
      x.temperature = o.temperature → Tempered o' := by
    rintro x ⟨⟩ hx d hd
    exact ho d (hx ▸ hd)
  unfold Settings.set at h
  split_ifs at h with hmodel htokens htemperature hendpoint hstyle htimeout
  · split at h <;> exact hkeep h rfl
  · split at h <;> exact hkeep h rfl
  · split at h
    · obtain ⟨d, hd, rfl⟩ := hread h
      rintro _ ⟨⟩
      exact hd
    · exact hkeep h rfl
  · split at h <;> exact hkeep h rfl
  · split at h <;> exact hkeep h rfl
  · split at h
    · obtain ⟨d, -, rfl⟩ := hread h
      exact ho
    · exact hkeep h rfl

theorem Tempered.foldlM {named : List (Text × Value)} {o o' : Overrides} (ho : Tempered o)
    (h : named.foldlM (fun o nv => Settings.set o nv.1 nv.2) o = .ok o') : Tempered o' := by
  induction named generalizing o with
  | nil =>
    cases h
    exact ho
  | cons nv named ih =>
    rw [List.foldlM_cons] at h
    obtain ⟨next, hnext, h⟩ := bind_eq_ok.mp h
    exact ih (ho.set hnext) h

theorem wellFormed_ofNamed {named : List (Text × Value)} {s : Settings}
    (h : ofNamed named = .ok s) : s.temperature.WellFormed := by
  obtain ⟨o, ho, h⟩ := bind_eq_ok.mp h
  have hempty : Tempered {} := by
    rintro d ⟨⟩
  exact wellFormed_ofOverrides (hempty.foldlM ho) h

/-- Settings that are given by name or by the environment. -/
def Given (s : Settings) : Prop :=
  (∃ named, ofNamed named = .ok s) ∨ ∃ env, ofEnvironment env = .ok s

/-- **The temperature of settings that are given is well formed.** -/
theorem Given.wellFormed {s : Settings} (h : s.Given) : s.temperature.WellFormed := by
  rcases h with ⟨named, h⟩ | ⟨env, h⟩
  · exact wellFormed_ofNamed h
  · exact wellFormed_ofEnvironment h

end Settings

/-! ## What is sent -/

/-- The field of a body that carries some messages: the messages themselves, or what they are
flattened to. -/
inductive Carries (messages : Json) : ApiStyle → Text × Json → Prop
  | chat : Carries messages .chat ("messages", messages)
  | completion {prompt : Text} : Prompt.flatten messages = .ok prompt →
      Carries messages .completion ("prompt", .str prompt)

theorem Client.carries_payload {style : ApiStyle} {messages : Json} {field : Text × Json}
    (h : payload style messages = .ok field) : Carries messages style field := by
  cases style with
  | chat =>
    cases h
    exact .chat
  | completion =>
    unfold payload at h
    dsimp only at h
    cases hflat : Prompt.flatten messages with
    | error e =>
      rw [hflat] at h
      cases h
    | ok prompt =>
      rw [hflat] at h
      cases h
      exact .completion hflat

/-- A body: what the settings ask for, and the messages. -/
def Settings.body (s : Settings) (field : Text × Json) : Json :=
  .obj [("model", .str s.model), ("max_tokens", .int s.maxTokens),
    ("temperature", .float s.temperature), field]

theorem Double.faithful_float {d : Double} (hfinite : d.isFinite = true) (hd : d.WellFormed)
    (depth : Nat) : Json.Faithful depth (.float d) := by
  cases d with
  | nan => cases hfinite
  | infinite negative => cases hfinite
  | finite negative m e => exact .float hd

theorem Prompt.faithful_spoken (m : Text × Text) : (spoken m).Faithful 1 := by
  have hkeys : [Text.ofString "role", Text.ofString "content"].Nodup := by decide
  refine .obj ?_ hkeys
  simp only [List.mem_cons, List.not_mem_nil, or_false, forall_eq_or_imp, forall_eq]
  exact ⟨.str m.1, .str m.2⟩

/-- A body is read back. -/
theorem Carries.faithful_body {s : Settings} (hs : s.Serialisable) {ms : List (Text × Text)}
    {field : Text × Json} (h : Carries (.arr (ms.map Prompt.spoken)) s.style field) :
    (s.body field).Faithful 3 := by
  have hfield : field.2.Faithful 2 ∧ (field.1 = "messages" ∨ field.1 = "prompt") := by
    generalize s.style = style at h
    cases h with
    | chat =>
      refine ⟨.arr ?_, .inl rfl⟩
      rw [List.forall_mem_map]
      exact fun m _ => Prompt.faithful_spoken m
    | completion => exact ⟨.str _, .inr rfl⟩
  refine .obj ?_ ?_
  · simp only [List.mem_cons, List.not_mem_nil, or_false, forall_eq_or_imp, forall_eq]
    exact ⟨.str _, .int hs.tokens, Double.faithful_float hs.finite hs.wellFormed 2, hfield.1⟩
  · rcases hfield.2 with hname | hname
    · simp only [List.map_cons, List.map_nil, hname]
      decide
    · simp only [List.map_cons, List.map_nil, hname]
      decide

/-! ## What comes back -/

/-- A field among others. -/
def Json.Holds (fields : List (Text × Json)) (key : Text) (v : Json) : Prop := (key, v) ∈ fields

/-- A document whose first choice has a text. -/
inductive Answers (t : Text) : ApiStyle → Json → Prop
  | chat {fields choice message : List (Text × Json)} {others : List Json} :
      Json.Holds fields "choices" (.arr (.obj choice :: others)) →
      Json.Holds choice "message" (.obj message) → Json.Holds message "content" (.str t) →
      Answers t .chat (.obj fields)
  | completion {fields choice : List (Text × Json)} {others : List Json} :
      Json.Holds fields "choices" (.arr (.obj choice :: others)) →
      Json.Holds choice "text" (.str t) → Answers t .completion (.obj fields)

/-- A reply that brings a document: with status 200, and in its body, once that is unpacked, the
document's text in UTF-8. -/
structure Reply.Brings (reply : Reply) (doc : Json) : Prop where
  status : reply.status = 200
  headers : reply.checkHeaders = .ok ()
  faithful : ∃ depth ≤ Json.depthLimit, doc.Faithful depth
  body : ∃ plain t, reply.unpacked = .ok plain ∧ doc.write = .ok t ∧
    Utf8.encode t = .ok plain.body

theorem Json.lookup_of_mem {fields : List (Text × Json)} (hkeys : (fields.map Prod.fst).Nodup)
    {key : Text} {v : Json} (h : Holds fields key v) : lookup key fields = some v := by
  induction fields with
  | nil => cases h
  | cons f fields ih =>
    obtain ⟨k, w⟩ := f
    rw [List.map_cons, List.nodup_cons] at hkeys
    rw [lookup]
    rcases List.mem_cons.mp h with heq | h
    · cases heq
      exact if_pos rfl
    · have hne : k ≠ key := by
        rintro rfl
        exact hkeys.1 (List.mem_map.mpr ⟨_, h, rfl⟩)
      rw [if_neg hne, ih hkeys.2 h]

/-- A field of a faithful object is found, and is faithful itself. -/
theorem Json.Faithful.field {depth : Nat} {fields : List (Text × Json)}
    (hfields : Faithful depth (.obj fields)) {key : Text} {v : Json} (h : Holds fields key v) :
    lookup key fields = some v ∧ ∃ depth', v.Faithful depth' := by
  cases hfields with
  | obj hvalues hkeys => exact ⟨lookup_of_mem hkeys h, _, hvalues _ h⟩

theorem Json.Faithful.head {depth : Nat} {v : Json} {vs : List Json}
    (h : Faithful depth (.arr (v :: vs))) : ∃ depth', v.Faithful depth' := by
  cases h with
  | arr hitems => exact ⟨_, hitems v (List.mem_cons_self ..)⟩

/-- The first choice's text is what is taken from a document. -/
theorem Answers.documentText {t : Text} {style : ApiStyle} {doc : Json} (h : Answers t style doc)
    {depth : Nat} (hdoc : doc.Faithful depth) : Reply.documentText style doc = .ok t := by
  cases h with
  | chat hchoices hmessage hcontent =>
    obtain ⟨hchoices, _, hlist⟩ := hdoc.field hchoices
    obtain ⟨_, hchoice⟩ := hlist.head
    obtain ⟨hmessage, _, hobject⟩ := hchoice.field hmessage
    obtain ⟨hcontent, -⟩ := hobject.field hcontent
    rw [Reply.documentText, hchoices]
    dsimp only
    rw [Reply.choiceText, hmessage]
    dsimp only
    rw [hcontent]
  | completion hchoices htext =>
    obtain ⟨hchoices, _, hlist⟩ := hdoc.field hchoices
    obtain ⟨_, hchoice⟩ := hlist.head
    obtain ⟨htext, -⟩ := hchoice.field htext
    rw [Reply.documentText, hchoices]
    dsimp only
    rw [Reply.choiceText, htext]

theorem Reply.status_unpacked {reply plain : Reply} (h : reply.unpacked = .ok plain) :
    plain.status = reply.status := by
  obtain ⟨body, -, h⟩ := bind_eq_ok.mp h
  cases h
  rfl

namespace Client

variable {c : Client}

/-- A document that is brought gives up its text. -/
theorem receive_of_brings {r : Request} (hurl : r.url.isAbsolute = true) {reply : Reply}
    {doc : Json} (hreply : reply.Brings doc) {t : Text} (h : Answers t c.settings.style doc) :
    c.receive r (.reply reply) = .ok t := by
  obtain ⟨plain, text, hplain, hwrite, hbytes⟩ := hreply.body
  obtain ⟨depth, hdepth, hdoc⟩ := hreply.faithful
  have hstatus : plain.status = 200 := by
    rw [Reply.status_unpacked hplain, hreply.status]
  have hlocation : plain.location? = none := by
    rw [Reply.location?, hstatus]
    rfl
  have hshallow : plain.tooDeep? = none := by
    rw [Reply.tooDeep?, hstatus, hdoc.decode?_encode hwrite hbytes]
    exact hdoc.tooDeep?_eq_none hdepth hwrite
  have hcomment : plain.comment c.settings.style = .ok t := by
    rw [Reply.comment, hstatus, Reply.bodyText, hdoc.ofBytes?_encode hwrite hbytes]
    dsimp only
    rw [h.documentText hdoc]
    rfl
  rw [receive_of_unpacked hreply.headers hplain, hurl, if_pos rfl, Reply.examine, hlocation,
    hshallow, hcomment]
  rfl

/-- The body of a request is read back from its bytes. -/
theorem ofBytes?_request (hs : c.settings.Serialisable) {ms : List (Text × Text)} {r : Request}
    (h : c.request (.arr (ms.map Prompt.spoken)) = .ok r) : ∃ bytes field,
      Utf8.encode r.body = .ok bytes ∧
      Carries (.arr (ms.map Prompt.spoken)) c.settings.style field ∧
      Json.ofBytes? bytes = some (c.settings.body field) := by
  obtain ⟨body, hbody, -, hwrite, hfree, -⟩ := request_eq_ok.mp h
  obtain ⟨bytes, hbytes⟩ := Utf8.encode_ok_iff.mpr hfree
  obtain ⟨field, hfield, hbody⟩ := bind_eq_ok.mp hbody
  cases hbody
  have hcarries := carries_payload hfield
  exact ⟨bytes, field, hbytes, hcarries, (hcarries.faithful_body hs).ofBytes?_encode hwrite hbytes⟩

/-- What a call sends: one request at most, and none without messages or when closed. -/
theorem requests_generate (messages : List Json) (w : World) :
    ∃ sent : Option Request,
      (Action.exec (c.generate (.arr messages)) w).2.requests = w.requests ++ sent.toList ∧
      ∀ r, sent = some r ↔
        messages ≠ [] ∧ c.closed = false ∧ c.request (.arr messages) = .ok r := by
  by_cases hne : messages = []
  · subst hne
    refine ⟨none, ?_, by simp⟩
    show w.requests = _
    rw [Option.toList_none, List.append_nil]
  · rw [exec_generate c hne]
    cases c.request (.arr messages) with
    | error e => exact ⟨none, by simp, by simp⟩
    | ok r =>
      dsimp only
      split_ifs with hclosed
      · exact ⟨none, by simp, by simp [hclosed]⟩
      · refine ⟨some r, World.requests_log w [.sent r], ?_⟩
        simp [hne, hclosed]

/-- **Texts cross the wire unchanged.** For messages of whatever roles and contents, read from the
body that a call sends are the settings, and the messages or the prompt they are flattened to; and
when a document comes back that is written in the same way, the call returns the text of its first
choice. -/
theorem generate_exchanges_text (hs : c.settings.Serialisable) {ms : List (Text × Text)}
    (hms : ∀ m ∈ ms, m.1.SurrogateFree ∧ m.2.SurrogateFree) (w : World) :
    (∃ sent : Option Request,
      (Action.exec (c.generate (.arr (ms.map Prompt.spoken))) w).2.requests =
        w.requests ++ sent.toList ∧
      (sent.isSome = true ↔ ms ≠ [] ∧ c.closed = false ∧
        ∃ url, (Url.ofText c.settings.endpoint).bind Url.target = .ok url) ∧
      ∀ r, sent = some r → ∃ bytes field, Utf8.encode r.body = .ok bytes ∧
        Carries (.arr (ms.map Prompt.spoken)) c.settings.style field ∧
        Json.ofBytes? bytes = some (c.settings.body field)) ∧
    ∀ (url : Url) (reply : Reply) (doc : Json) (t : Text), ms ≠ [] → c.closed = false →
      (Url.ofText c.settings.endpoint).bind Url.target = .ok url → url.isAbsolute = true →
      w.outcome 0 = .reply reply → reply.Brings doc → Answers t c.settings.style doc →
      (Action.exec (c.generate (.arr (ms.map Prompt.spoken))) w).1 = .ok t := by
  have hrequest : (∃ r, c.request (.arr (ms.map Prompt.spoken)) = .ok r) ↔
      ∃ url, (Url.ofText c.settings.endpoint).bind Url.target = .ok url := by
    rw [request_spoken_ok_iff]
    exact and_iff_left ⟨hs.length_tokens, hs.finite, hs.model, hms⟩
  constructor
  · obtain ⟨sent, hrequests, hsent⟩ := requests_generate (c := c) (ms.map Prompt.spoken) w
    refine ⟨sent, hrequests, ?_, ?_⟩
    · rw [Option.isSome_iff_exists, ← hrequest]
      simp [hsent]
    · intro r hr
      exact ofBytes?_request hs ((hsent r).mp hr).2.2
  · intro url reply doc t hne hclosed hurl habsolute houtcome hreply hanswers
    obtain ⟨r, hr⟩ := hrequest.mpr ⟨url, hurl⟩
    have htarget : r.url = url := by
      obtain ⟨-, -, hurl', -⟩ := request_eq_ok.mp hr
      rw [hurl] at hurl'
      exact (Except.ok.inj hurl').symm
    have hne' : ms.map Prompt.spoken ≠ [] := by simpa using hne
    rw [exec_generate c hne', hr]
    dsimp only
    rw [if_neg (by simp [hclosed]), houtcome]
    exact receive_of_brings (by rw [htarget, habsolute]) hreply hanswers

/-! ## An echo -/

/-- A quote mark, a backslash, NUL, other control characters, a bracket, and characters of two and
of four bytes. -/
def echoText : Text := "\"\\\x00\n\x1f[é😀"

def echoClient : Client where
  key := "k"
  settings :=
    { model := "m", maxTokens := 100, temperature := Settings.defaultTemperature,
      endpoint := "https://h", style := .chat, timeout := none }

/-- The document that says a text. -/
def echoed (t : Text) : Json :=
  .obj [("choices", .arr [.obj [("message", .obj [("content", .str t)])]])]

/-- The bytes of the text of a document. -/
def written (v : Json) : Bytes :=
  match v.write with
  | .ok t => t.flatMap Utf8.encodePoint
  | .error _ => []

def echoReply : Reply := ⟨200, [], written (echoed echoText)⟩

def echoWorld : World where
  verbosity := .bool true
  outcomes := [.reply echoReply]
  cwd := []
  disk := ⟨[]⟩
  trace := []

theorem echoClient_given : echoClient.settings.Given :=
  .inl ⟨[("model", .text "m"), ("endpoint", .text "https://h")], by decide +kernel⟩

theorem echoClient_serialisable : echoClient.settings.Serialisable where
  model := Text.surrogateFree_ofString _
  finite := by decide +kernel
  wellFormed := echoClient_given.wellFormed
  tokens := calc
    100 < 10 ^ 3 := by decide
    _ ≤ 10 ^ Number.digitLimit := Nat.pow_le_pow_right (by decide) (by decide)

theorem echoed_faithful (t : Text) : (echoed t).Faithful 4 := by
  have hkeys : ∀ key : Text, [key].Nodup := List.nodup_singleton
  refine .obj (List.forall_mem_singleton.mpr ?_) (hkeys _)
  refine .arr (List.forall_mem_singleton.mpr ?_)
  refine .obj (List.forall_mem_singleton.mpr ?_) (hkeys _)
  refine .obj (List.forall_mem_singleton.mpr ?_) (hkeys _)
  exact .str t

theorem echoReply_brings : echoReply.Brings (echoed echoText) where
  status := rfl
  headers := rfl
  faithful := ⟨4, by decide, echoed_faithful echoText⟩
  body := ⟨echoReply, _, rfl, rfl, by decide +kernel⟩

theorem echoWorld_exchanges_text :
    let messages : Json := .arr [Prompt.spoken ("user", echoText)]
    let out := Action.exec (echoClient.generate messages) echoWorld
    (∃ r bytes, out.2.requests = [r] ∧ Utf8.encode r.body = .ok bytes ∧
      Json.ofBytes? bytes = some (echoClient.settings.body ("messages", messages))) ∧
    out.1 = .ok echoText := by
  intro messages out
  have hms : ∀ m ∈ [(Text.ofString "user", echoText)], m.1.SurrogateFree ∧ m.2.SurrogateFree :=
    List.forall_mem_singleton.mpr ⟨Text.surrogateFree_ofString _, Text.surrogateFree_ofString _⟩
  obtain ⟨url, hurl, habsolute⟩ : ∃ url,
      (Url.ofText echoClient.settings.endpoint).bind Url.target = .ok url ∧
        url.isAbsolute = true := ⟨_, rfl, rfl⟩
  obtain ⟨⟨sent, hrequests, hsent, hbody⟩, hreply⟩ :=
    generate_exchanges_text echoClient_serialisable hms echoWorld
  constructor
  · obtain ⟨r, rfl⟩ := Option.isSome_iff_exists.mp (hsent.mpr ⟨by simp, rfl, url, hurl⟩)
    obtain ⟨bytes, field, hbytes, hfield, hread⟩ := hbody r rfl
    cases hfield
    exact ⟨r, bytes, hrequests, hbytes, hread⟩
  · have hanswers : Answers echoText .chat (echoed echoText) :=
      .chat (List.mem_singleton.mpr rfl) (List.mem_singleton.mpr rfl) (List.mem_singleton.mpr rfl)
    exact hreply url echoReply (echoed echoText) echoText (by simp) rfl hurl habsolute rfl
      echoReply_brings hanswers

end Client

end DartComments
