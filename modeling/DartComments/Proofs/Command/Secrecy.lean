import DartComments.Proofs.Command.Consent
import DartComments.Proofs.Command.Twins

/-!
# What a key shows in

Two runs that differ in the key alone are counterparts (`Counterpart`) with the same wish for
progress, so nothing that they print, report, write or ask for tells the keys apart. The key shows
in one place, the authorization of a request, and even there only when the endpoint has no name and
no password of its own: a URL with credentials is authorized by these.
-/

namespace DartComments

namespace Client

/-- No name and password make a header that a key makes. -/
theorem basic_ne_bearer (name password key : Text) : basic name password ≠ bearer key := by
  intro h
  have hsecond : (basic name password)[1]? = (bearer key)[1]? := by rw [h]
  have hbasic : (basic name password)[1]? = some (.char 'a') := rfl
  have hbearer : (bearer key)[1]? = some (.char 'e') := rfl
  rw [hbasic, hbearer] at hsecond
  revert hsecond
  decide

/-- A request carries the key exactly when its URL carries no credentials. -/
theorem credential_eq_bearer_iff {key : Text} {u : Url} :
    credential key u = bearer key ↔ u.credentials = ([], []) := by
  rw [credential]
  by_cases h : u.credentials = ([], [])
  · rw [if_pos h]
    exact iff_of_true rfl h
  · rw [if_neg h]
    exact iff_of_false (basic_ne_bearer _ _ _) h

end Client

namespace Request

variable {key key' : Text} {r r' : Request}

theorem Counterpart.bearer_iff (h : Counterpart key key' r r') :
    r.authorization = Client.bearer key ↔ r.url.credentials = ([], []) := by
  rw [h.authorization, Client.credential_eq_bearer_iff]

theorem Counterpart.bearer_iff' (h : Counterpart key key' r r') :
    r'.authorization = Client.bearer key' ↔ r'.url.credentials = ([], []) := by
  rw [h.authorization', Client.credential_eq_bearer_iff]

end Request

namespace Command

/-- **The key is not told.** Two runs that differ in the key alone, both keys ASCII, end alike, with
the same output, reports and files. They send the same requests but for the authorization, which is
the bearer token of the key for exactly those URLs that have no credentials. -/
theorem run_hides_key (parser : Parser) (i i' : Invocation) (w : World) (key key' : Text)
    (rest : List Text) (harguments : i.arguments = key :: rest)
    (harguments' : i'.arguments = key' :: rest) (hinput : i'.input = i.input)
    (henvironment : i'.environment = i.environment) (hkey : key.IsAscii) (hkey' : key'.IsAscii) :
    let out := Action.exec (run parser i) w
    let out' := Action.exec (run parser i') w
    out'.1 = out.1 ∧ out'.2.stdout = out.2.stdout ∧ out'.2.stderr = out.2.stderr ∧
      out'.2.disk = out.2.disk ∧
      ∃ rs rs', out.2.requests = w.requests ++ rs ∧ out'.2.requests = w.requests ++ rs' ∧
        List.Forall₂ (Request.Counterpart key key') rs rs' ∧
        (∀ r ∈ rs, r.authorization = Client.bearer key ↔ r.url.credentials = ([], [])) ∧
        ∀ r ∈ rs', r.authorization = Client.bearer key' ↔ r.url.credentials = ([], []) := by
  intro out out'
  have hcounterpart : Counterpart i i' :=
    ⟨.inr ⟨key, key', rest, harguments, harguments', hkey, hkey'⟩, hinput, by rw [henvironment]⟩
  obtain ⟨v, lines, report, rs, rs', hcourse, hresult, hdisk, hshows, hshows', hrequests, -⟩ :=
    (course_exec parser i w).twin hcounterpart
  have hout : out' = v := hcourse.exec
  subst hout
  have hfirst : i.key = key := by rw [Invocation.key, harguments]; rfl
  have hfirst' : i'.key = key' := by rw [Invocation.key, harguments']; rfl
  rw [hfirst, hfirst'] at hrequests
  have hverbose : i'.verbose = i.verbose := by
    rw [Invocation.verbose, henvironment, Invocation.verbose]
  refine ⟨hresult, ?_, ?_, hdisk, rs, rs', hshows.requests, hshows'.requests, hrequests, ?_, ?_⟩
  · rw [hshows'.stdout, hshows.stdout, hverbose]
  · rw [hshows'.stderr, hshows.stderr]
  · exact ((List.forall₂_and_left _ _).mp (hrequests.imp fun _ _ h => ⟨h.bearer_iff, h⟩)).1
  · have hflipped := List.Forall₂.flip (R := flip (Request.Counterpart key key')) hrequests
    exact ((List.forall₂_and_left _ _).mp (hflipped.imp fun _ _ h => ⟨h.bearer_iff', h⟩)).1

/-- Another key than the usual one, for the same source: the files are the same afterwards. -/
theorem selfWorld_hides_key :
    let out' := Action.exec (run (fun _ => smallTree) ⟨["-9", outputName], "y", []⟩) selfWorld
    out'.1 = .ok .success ∧ out'.2.disk.read selfWorld.cwd (outputPath selfWorld) =
      .ok smallResult := by
  intro out'
  obtain ⟨hresult, -, -, hdisk, -⟩ := run_hides_key (fun _ => smallTree) (agreement outputName)
    ⟨["-9", outputName], "y", []⟩ selfWorld "k" "-9" [outputName] rfl rfl rfl rfl
    (by unfold Text.IsAscii; decide) (by unfold Text.IsAscii; decide)
  obtain ⟨u, hy⟩ := selfWorld_yields
  have hw := Disk.write_eq selfWorld_target (by decide) smallResult
  refine ⟨hresult.trans (hy.exec hw).1, ?_⟩
  rw [hdisk, (hy.exec hw).2]
  exact Disk.read_write rfl hw

/-! ## An endpoint with credentials -/

/-- A run whose endpoint has a name and a password. -/
def accountRun : Invocation := ⟨["k", outputName], "y", [("DARTDOC_ENDPOINT", "https://u:p@h")]⟩

/-- The client of that run. -/
def accountClient : Client :=
  { standardClient with
    settings := { standardClient.settings with endpoint := "https://u:p@h" } }

theorem accountRun_started : Started accountRun "k" outputName accountClient :=
  ⟨⟨rfl, rfl, by decide +kernel⟩, by decide, rfl⟩

theorem accountClient_answered : ∃ r, Generation.Answered accountClient .standard
    (Utf8.decodeEscaped smallSource) (selfWorld.outcome 0) smallDeclaration r [.char 'é'] ∧
    r.authorization = "Basic dTpw" := by
  have haskable : Generation.Askable accountClient (Utf8.decodeEscaped smallSource)
      smallDeclaration :=
    ⟨⟨_, rfl⟩, by decide, rfl, Text.surrogateFree_ofString _, Text.surrogateFree_ofString _,
      by decide⟩
  obtain ⟨r, hr⟩ := (Generation.ask_ok_iff rfl).mpr haskable
  have hauthorization := congrArg Request.authorization (Generation.sign_of_ask hr)
  refine ⟨r, ⟨by decide, hr, ?_⟩, ?_⟩
  · obtain ⟨url, authorization, timeout, body⟩ := r
    cases Generation.url_of_ask hr
    rfl
  · rw [← hauthorization]
    obtain ⟨url, authorization, timeout, body⟩ := r
    cases Generation.url_of_ask hr
    rfl

/-- The request of that run carries the name and the password, and no key. -/
theorem accountRun_without_key :
    ∃ r ∈ (Action.exec (run (fun _ => smallTree) accountRun) selfWorld).2.requests,
      r.authorization = "Basic dTpw" ∧ r.authorization ≠ Client.bearer "k" := by
  obtain ⟨path, hanalyse⟩ := analyse_of_names (fun _ => smallTree) selfWorld_names
    selfWorld_isWorkingDirectory
  have hl : Located (fun _ => smallTree) selfWorld (.ofText outputName)
      (.ofFile (fun _ => smallTree) path smallSource) [smallDeclaration] :=
    ⟨Disk.isFile_of_read selfWorld_names.read, hanalyse⟩
  obtain ⟨r, hr, hauthorization⟩ := accountClient_answered
  have ha : Generation.AnsweredInTurn accountClient .standard (Utf8.decodeEscaped smallSource)
      selfWorld.outcome [smallDeclaration] [r] [[.char 'é']] := .cons hr .nil
  have hnamed : outputName ≠ "--" := by decide
  have hof : selfWorld.outcomes = smallWorld.outcomes := rfl
  have hencoded := (yields_smallResult hnamed hof hl).encoded
  have hy : Yields (fun _ => smallTree) accountRun selfWorld "k" outputName accountClient
      (.ofFile (fun _ => smallTree) path smallSource) [smallDeclaration] [[.char 'é']]
      smallResult :=
    ⟨accountRun_started, hl, ⟨[r], ha⟩, hencoded⟩
  have hw := Disk.write_eq selfWorld_target (by decide) smallResult
  refine ⟨r, ?_, hauthorization, ?_⟩
  · rw [hy.requests ha hw]
    exact List.mem_append_right _ (List.mem_singleton.mpr rfl)
  · rw [hauthorization]
    decide

end Command

end DartComments
