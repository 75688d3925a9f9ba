import DartComments.Proofs.Backend.Request

/-!
# Replies that no backend error tells of

Most of what can be wrong with a reply is told by a `BackendError`, which the command reports. The
rest derails the call: a header that is not ASCII, an address without scheme or host, a redirection
to a URL with neither host nor root, a document that is nested too deeply, and a body without a
comment whose text, which the error would have to quote, cannot be read (`receive_unreported_iff`).
-/

namespace DartComments

namespace Reply

/-- What is made of a reply that is unpacked. -/
def examine (style : ApiStyle) (plain : Reply) : Except Failure Text := do
  plain.location?.forM Client.checkLocation
  plain.tooDeep?.forM fun nest => throw (.tooDeep nest)
  match plain.comment style with
  | .ok t => pure t
  | .error fault =>
    let body ← plain.text.mapError .text
    throw (.backend (.ofFault fault plain.status body))

/-- The ways in which an unpacked reply fails without a backend error. -/
inductive Astray (style : ApiStyle) (plain : Reply) : Prop
  /-- It tells to go to a URL with a scheme, no host, and a path that is not from the root. -/
  | location {t : Text} {u : Url} : plain.location? = some t → Url.ofText t = .ok u →
      u.scheme ≠ [] → u.host = [] → u.path ≠ [] → u.path.head? ≠ some Url.slash →
      Astray style plain
  | nested {nest : Json.Nest} : plain.tooDeep? = some nest → Astray style plain
  /-- The error for the missing comment would have to quote the body. -/
  | text {fault : Fault} {e : TextError} :
      (∀ t, plain.location? = some t → ∃ u, Url.ofText t = .ok u) →
      plain.comment style = .error fault → plain.text = .error e → Astray style plain

/-- The ways in which a reply from an address fails without a backend error. -/
inductive Derails (style : ApiStyle) (url : Url) (reply : Reply) : Prop
  | header {h : Text × Text} {c : CodePoint} : h ∈ reply.headers → c ∈ h.1 ++ h.2 →
      c.isAscii = false → Derails style url reply
  | relative {plain : Reply} : reply.unpacked = .ok plain → url.isAbsolute = false →
      Derails style url reply
  | astray {plain : Reply} : reply.unpacked = .ok plain → plain.Astray style →
      Derails style url reply

theorem checkHeaders_error_iff {reply : Reply} : (∃ e, reply.checkHeaders = .error e) ↔
    ∃ h ∈ reply.headers, ∃ c ∈ h.1 ++ h.2, c.isAscii = false := by
  rw [checkHeaders, forM_eq_error]
  refine exists_congr fun h => and_congr_right fun _ => ?_
  simp only [List.mem_append, or_and_right, exists_or, ← Ascii.encode_error_iff]
  cases Ascii.encode h.1 <;> cases Ascii.encode h.2 <;> simp [bind, Except.bind, pure, Except.pure]

/-- Only a reply with status 200 is read, and only others tell to go elsewhere. -/
theorem location?_of_tooDeep? {plain : Reply} {nest : Json.Nest}
    (h : plain.tooDeep? = some nest) : plain.location? = none := by
  rw [tooDeep?] at h
  split at h
  · cases h
  · next hstatus =>
    rw [location?, Classical.not_not.mp hstatus]
    rfl

end Reply

theorem Url.checkPath_error_iff {path : Text} : (∃ e, checkPath true true path = .error e) ↔
    path ≠ [] ∧ path.head? ≠ some slash := by
  cases path with
  | nil => simp [checkPath]
  | cons c path => by_cases hc : c = slash <;> simp [checkPath, hc]

namespace Client

/-- A location is reported unless it is a URL, and then it fails for want of a host and a root. -/
theorem checkLocation_unreported_iff {t : Text} :
    (∃ e, checkLocation t = .error e ∧ e.isReported = false) ↔
      ∃ u, Url.ofText t = .ok u ∧ u.scheme ≠ [] ∧ u.host = [] ∧ u.path ≠ [] ∧
        u.path.head? ≠ some Url.slash := by
  rw [checkLocation]
  cases hu : Url.ofText t with
  | error e =>
    refine iff_of_false ?_ (by simp)
    rintro ⟨_, h, he⟩
    cases h
    cases he
  | ok u =>
    dsimp only
    split
    · next hbare =>
      obtain ⟨hs, hh⟩ : u.scheme ≠ [] ∧ u.host = [] := by simpa using hbare
      simp only [Except.ok.injEq, exists_eq_left', ne_eq, hs, not_false_eq_true, hh, true_and,
        ← Url.checkPath_error_iff]
      constructor
      · rintro ⟨e, h, -⟩
        obtain ⟨e', he', -⟩ := mapError_eq_error.mp h
        exact ⟨e', he'⟩
      · rintro ⟨e, he⟩
        rw [he]
        exact ⟨_, rfl, rfl⟩
    · next hfull =>
      refine iff_of_false ?_ ?_
      · rintro ⟨_, h, -⟩
        cases h
      · rintro ⟨_, ⟨⟩, hs, hh, -⟩
        exact hfull (by simp [hs, hh])

/-- What is a URL, or passes the check, is not reported. -/
theorem isReported_of_checkLocation {t : Text} {u : Url} {e : Failure} (hu : Url.ofText t = .ok u)
    (h : checkLocation t = .error e) : e.isReported = false := by
  rw [checkLocation, hu] at h
  dsimp only at h
  split at h
  · obtain ⟨_, -, rfl⟩ := mapError_eq_error.mp h
    rfl
  · cases h

theorem exists_url_of_checkLocation {t : Text} (h : checkLocation t = .ok ()) :
    ∃ u, Url.ofText t = .ok u := by
  cases hu : Url.ofText t with
  | ok u => exact ⟨u, rfl⟩
  | error e =>
    rw [checkLocation, hu] at h
    cases h

end Client

namespace Reply

variable {style : ApiStyle} {plain : Reply}

/-- How an unpacked reply fails. -/
theorem examine_error_cases {e : Failure} (h : plain.examine style = .error e) :
    (∃ t, plain.location? = some t ∧ Client.checkLocation t = .error e) ∨
    plain.location?.forM Client.checkLocation = .ok () ∧
      ((∃ nest, plain.tooDeep? = some nest ∧ e = .tooDeep nest) ∨
      ∃ fault, plain.comment style = .error fault ∧
        ((∃ e', plain.text = .error e' ∧ e = .text e') ∨
        ∃ body, plain.text = .ok body ∧ e = .backend (.ofFault fault plain.status body))) := by
  rcases bind_eq_error.mp h with h | ⟨_, hcheck, h⟩
  · cases hloc : plain.location? with
    | none =>
      rw [hloc] at h
      cases h
    | some t =>
      rw [hloc] at h
      exact .inl ⟨t, rfl, h⟩
  refine .inr ⟨hcheck, ?_⟩
  rcases bind_eq_error.mp h with h | ⟨-, -, h⟩
  · cases hnest : plain.tooDeep? with
    | none =>
      rw [hnest] at h
      cases h
    | some nest =>
      rw [hnest] at h
      cases h
      exact .inl ⟨nest, rfl, rfl⟩
  cases hc : plain.comment style with
  | ok t =>
    rw [hc] at h
    cases h
  | error fault =>
    rw [hc] at h
    refine .inr ⟨fault, rfl, ?_⟩
    rcases bind_eq_error.mp h with h | ⟨body, hbody, h⟩
    · obtain ⟨e', ht, rfl⟩ := mapError_eq_error.mp h
      exact .inl ⟨e', ht, rfl⟩
    · cases h
      exact .inr ⟨body, mapError_eq_ok.mp hbody, rfl⟩

theorem astray_of_examine {e : Failure} (h : plain.examine style = .error e)
    (he : e.isReported = false) : plain.Astray style := by
  rcases examine_error_cases h with ⟨t, hloc, h⟩ | ⟨hcheck, ⟨nest, hnest, rfl⟩ |
    ⟨fault, hc, ⟨e', ht, rfl⟩ | ⟨body, -, rfl⟩⟩⟩
  · obtain ⟨u, hu, hs, hh, hp, hr⟩ := Client.checkLocation_unreported_iff.mp ⟨e, h, he⟩
    exact .location hloc hu hs hh hp hr
  · exact .nested hnest
  · refine .text (fun t hloc => ?_) hc ht
    rw [hloc] at hcheck
    exact Client.exists_url_of_checkLocation hcheck
  · cases he

theorem Astray.examine (h : plain.Astray style) :
    ∃ e, plain.examine style = .error e ∧ e.isReported = false := by
  cases h with
  | location hloc hu hs hh hp hr =>
    obtain ⟨e, hcheck, he⟩ := Client.checkLocation_unreported_iff.mpr ⟨_, hu, hs, hh, hp, hr⟩
    refine ⟨e, ?_, he⟩
    rw [Reply.examine, hloc]
    exact bind_eq_error.mpr (.inl hcheck)
  | @nested nest hnest =>
    refine ⟨.tooDeep nest, ?_, rfl⟩
    rw [Reply.examine, location?_of_tooDeep? hnest, hnest]
    rfl
  | @text fault e hurl hc ht =>
    cases hcheck : plain.location?.forM Client.checkLocation with
    | error e' =>
      refine ⟨e', bind_eq_error.mpr (.inl hcheck), ?_⟩
      cases hloc : plain.location? with
      | none =>
        rw [hloc] at hcheck
        cases hcheck
      | some t =>
        rw [hloc] at hcheck
        obtain ⟨u, hu⟩ := hurl t hloc
        exact Client.isReported_of_checkLocation hu hcheck
    | ok _ =>
      cases hnest : plain.tooDeep? with
      | some nest =>
        refine ⟨.tooDeep nest, ?_, rfl⟩
        rw [Reply.examine, hcheck, hnest]
        rfl
      | none =>
        refine ⟨.text e, ?_, rfl⟩
        rw [Reply.examine, hcheck, hnest, hc, ht]
        rfl

/-- With headers that are ASCII it is the unpacked reply that matters. -/
theorem derails_iff_of_headers {reply : Reply} {url : Url} (h : reply.checkHeaders = .ok ()) :
    reply.Derails style url ↔
      ∃ plain, reply.unpacked = .ok plain ∧ (url.isAbsolute = false ∨ plain.Astray style) := by
  constructor
  · rintro (⟨hh, hc, hascii⟩ | ⟨hp, ha⟩ | ⟨hp, ha⟩)
    · obtain ⟨e, he⟩ := checkHeaders_error_iff.mpr ⟨_, hh, _, hc, hascii⟩
      rw [h] at he
      cases he
    · exact ⟨_, hp, .inl ha⟩
    · exact ⟨_, hp, .inr ha⟩
  · rintro ⟨plain, hp, ha | ha⟩
    · exact .relative hp ha
    · exact .astray hp ha

end Reply

namespace Client

variable {client : Client} {r : Request} {reply plain : Reply}

theorem receive_of_headers_error {e : Unencodable} (h : reply.checkHeaders = .error e) :
    client.receive r (.reply reply) = .error (.unencodable e) := by
  rw [receive, h]
  rfl

theorem receive_of_unpacked_error {fault : StreamFault} (hheaders : reply.checkHeaders = .ok ())
    (hfault : reply.unpacked = .error fault) :
    client.receive r (.reply reply) = .error (.backend (.transport fault.message)) := by
  rw [receive, hheaders, hfault]
  rfl

/-- A reply that can be unpacked is examined, when it comes from an address in full. -/
theorem receive_of_unpacked (hheaders : reply.checkHeaders = .ok ())
    (hplain : reply.unpacked = .ok plain) :
    client.receive r (.reply reply) =
      if r.url.isAbsolute then plain.examine client.settings.style
      else .error (.relativeUrl r.url.text) := by
  rw [receive, hheaders, hplain]
  show (if (! r.url.isAbsolute) = true then _ else _) = _
  cases r.url.isAbsolute <;> rfl

/-- **What derails a call.** A call fails in a way that is not reported exactly when there is a
reply and it is one that derails. -/
theorem receive_unreported_iff {o : Outcome} :
    (∃ e, client.receive r o = .error e ∧ e.isReported = false) ↔
      ∃ reply, o = .reply reply ∧ reply.Derails client.settings.style r.url := by
  cases o with
  | failure why =>
    refine iff_of_false ?_ (by simp)
    rintro ⟨_, h, he⟩
    cases h
    cases he
  | reply reply =>
    simp only [Outcome.reply.injEq, exists_eq_left']
    cases hheaders : reply.checkHeaders with
    | error e =>
      obtain ⟨h, hh, c, hc, hascii⟩ := Reply.checkHeaders_error_iff.mp ⟨e, hheaders⟩
      exact iff_of_true ⟨_, receive_of_headers_error hheaders, rfl⟩ (.header hh hc hascii)
    | ok _ =>
      rw [Reply.derails_iff_of_headers hheaders]
      cases hplain : reply.unpacked with
      | error fault =>
        refine iff_of_false ?_ (by simp)
        rintro ⟨_, h, he⟩
        rw [receive_of_unpacked_error hheaders hplain] at h
        cases h
        cases he
      | ok plain =>
        rw [receive_of_unpacked hheaders hplain]
        simp only [Except.ok.injEq, exists_eq_left']
        cases r.url.isAbsolute with
        | false => exact iff_of_true ⟨_, rfl, rfl⟩ (.inl rfl)
        | true =>
          constructor
          · rintro ⟨e, h, he⟩
            exact .inr (Reply.astray_of_examine h he)
          · rintro (h | h)
            · cases h
            · exact h.examine

end Client

end DartComments
