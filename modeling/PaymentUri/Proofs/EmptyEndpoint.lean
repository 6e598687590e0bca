import PaymentUri.Proofs.Precedence

namespace PaymentUri

def endpointVariables : List String := ["DGB_RPC_ENDPOINT", "DGB_RPC_URL"]

namespace Environment

/-- Some endpoint variables that are empty in the first environment are unset in the second, and that is all. -/
structure Blanks (env bare : Environment) : Prop where
  other : ∀ name, name ∉ endpointVariables → env.lookup name = bare.lookup name
  endpoint : ∀ name ∈ endpointVariables,
    env.lookup name = bare.lookup name ∨ env.lookup name = some "" ∧ bare.lookup name = none

/-- The second variable is empty instead of unset, and nothing that goes before it names an endpoint. -/
structure Shadows (env bare : Environment) (overrides : Value) : Prop where
  url : env.lookup "DGB_RPC_URL" = some ""
  unset : bare.lookup "DGB_RPC_URL" = none
  endpoint : ∀ text, env.lookup "DGB_RPC_ENDPOINT" = some text → text = ""
  override : overrides.field "endpoint" = .null

end Environment

namespace Settings

variable {env bare : Environment} {overrides rpc v w : Value} {path : String} {file : Value} {parts : Parts}
  {environmentPort overridePort filePort : Option Int}

def Parts.below (parts : Parts) (overrides : Value) : Parts where
  host := if overrides.field "host" = .null then parts.host else .null
  port := if overrides.field "port" = .null then parts.port else none
  useHttps := (bool? (overrides.field "use_https")).elim parts.useHttps fun _ => none

def finish (overrides : Value) (env : Environment) (path : String) (rpc : Value) (environmentPort : Option Int)
    (parts : Parts) : Except SettingsFault Connection :=
  checkCaller overrides env rpc >>= fun _ =>
    port? "overrides" (overrides.field "port") >>= fun overridePort =>
      port? (path ++ " rpc.port") (rpc.field "port") >>= fun filePort =>
        .ok (Pieces.connection ⟨environmentPort, parts, overridePort, filePort⟩ overrides env rpc)

theorem connection_eq_finish (overrides : Value) (env : Environment) (path : String) (file : Value) :
    Settings.connection overrides env path file = (section? path file >>= fun rpc =>
      port? "environment" (variableOf env "PORT") >>= fun environmentPort =>
        endpoint (chosenEndpoint overrides env rpc) >>= finish overrides env path rpc environmentPort) :=
  connection_eq overrides env path file

theorem first_cons_cons (v w : Value) (vs : List Value) :
    first (v :: w :: vs) = first [if v = .null then w else .null, first (v :: .null :: vs)] := by
  by_cases hv : v = .null
  · subst hv
    by_cases hw : w = .null
    · subst hw
      simp [first_singleton]
    · simp [first_of_ne_null hw]
  · simp [hv, first_of_ne_null hv]

theorem firstSome_cons_cons {α : Type} (o o' : Option α) (os : List (Option α)) (d : α) :
    firstSome (o :: o' :: os) d = firstSome [o.elim o' fun _ => none] (firstSome (o :: none :: os) d) := by
  cases o <;> cases o' <;> rfl

theorem connection_eq_over (hport : port? "overrides" (overrides.field "port") = .ok overridePort) :
    Pieces.connection ⟨environmentPort, parts, overridePort, filePort⟩ overrides env rpc =
      (parts.below overrides).over
        (Pieces.connection ⟨environmentPort, {}, overridePort, filePort⟩ overrides env rpc) := by
  have hbelow : (if overrides.field "port" = .null then parts.port else none) =
      overridePort.elim parts.port fun _ => none := by
    by_cases hnull : overrides.field "port" = .null
    · rw [hnull] at hport
      rw [if_pos hnull, ← Except.ok.inj hport]
      rfl
    · obtain ⟨n, -, rfl⟩ := exists_port_of_ne_null hnull hport
      rw [if_neg hnull]
      rfl
  simp only [Pieces.connection, Parts.over, Parts.below, hbelow]
  rw [first_cons_cons, firstSome_cons_cons overridePort, firstSome_cons_cons (bool? (overrides.field "use_https"))]

theorem finish_eq_over (overrides : Value) (env : Environment) (path : String) (rpc : Value)
    (environmentPort : Option Int) (parts : Parts) :
    finish overrides env path rpc environmentPort parts =
      (finish overrides env path rpc environmentPort {}).map (parts.below overrides).over := by
  rw [finish, finish]
  cases checkCaller overrides env rpc with
  | error fault => rfl
  | ok _ =>
      cases hport : port? "overrides" (overrides.field "port") with
      | error fault => rfl
      | ok overridePort =>
          cases port? (path ++ " rpc.port") (rpc.field "port") with
          | error fault => rfl
          | ok filePort => exact congrArg Except.ok (connection_eq_over hport)

theorem variableOf_eq (h : env.Blanks bare) (name : String) (hname : "DGB_RPC_" ++ name ∉ endpointVariables) :
    variableOf env name = variableOf bare name := by
  rw [variableOf, environmentValue, h.other _ hname]
  rfl

theorem checkCaller_eq (h : env.Blanks bare) : checkCaller overrides env rpc = checkCaller overrides bare rpc := by
  rw [checkCaller, chosen, chosen, variableOf_eq h "USER" (by decide), variableOf_eq h "PASSWORD" (by decide)]
  rfl

theorem Pieces.connection_eq (h : env.Blanks bare) (pieces : Pieces) :
    pieces.connection overrides env rpc = pieces.connection overrides bare rpc := by
  rw [Pieces.connection, chosen, chosen, variableOf_eq h "USER" (by decide), variableOf_eq h "PASSWORD" (by decide),
    variableOf_eq h "HOST" (by decide), variableOf_eq h "USE_HTTPS" (by decide)]
  rfl

theorem finish_eq (h : env.Blanks bare) :
    finish overrides env path rpc environmentPort = finish overrides bare path rpc environmentPort := by
  funext parts
  simp only [finish, checkCaller_eq h, Pieces.connection_eq h]

theorem environmentEndpoint_of_text {text : String} (h : env.lookup "DGB_RPC_ENDPOINT" = some text) (hne : text ≠ "") :
    environmentEndpoint env = .text text := by
  have htruthy : (Value.text text).isTruthy = true := bne_iff_ne.mpr hne
  rw [environmentEndpoint, environmentValue, h]
  exact if_pos htruthy

theorem environmentEndpoint_of_empty (h : ∀ text, env.lookup "DGB_RPC_ENDPOINT" = some text → text = "") :
    environmentEndpoint env = environmentValue env "DGB_RPC_URL" := by
  rw [environmentEndpoint, environmentValue]
  cases hlookup : env.lookup "DGB_RPC_ENDPOINT" with
  | none => rfl
  | some text =>
      rw [h text hlookup]
      rfl

theorem environmentEndpoint_eq (h : env.Blanks bare) (hshadows : ¬env.Shadows bare overrides)
    (hover : overrides.field "endpoint" = .null) : environmentEndpoint env = environmentEndpoint bare := by
  have hfirst := h.endpoint "DGB_RPC_ENDPOINT" (by decide)
  by_cases hempty : ∀ text, env.lookup "DGB_RPC_ENDPOINT" = some text → text = ""
  · have hsecond : env.lookup "DGB_RPC_URL" = bare.lookup "DGB_RPC_URL" :=
      (h.endpoint "DGB_RPC_URL" (by decide)).resolve_right fun hurl => hshadows ⟨hurl.1, hurl.2, hempty, hover⟩
    have hempty' : ∀ text, bare.lookup "DGB_RPC_ENDPOINT" = some text → text = "" := by
      rcases hfirst with hsame | ⟨-, hnone⟩
      · rwa [← hsame]
      · rw [hnone]
        exact nofun
    rw [environmentEndpoint_of_empty hempty, environmentEndpoint_of_empty hempty', environmentValue, hsecond]
    rfl
  · obtain ⟨text, hnot⟩ := Classical.not_forall.mp hempty
    obtain ⟨htext, hne⟩ := Classical.not_imp.mp hnot
    rcases hfirst with hsame | ⟨hblank, -⟩
    · rw [environmentEndpoint_of_text htext hne, environmentEndpoint_of_text (hsame ▸ htext) hne]
    · rw [htext] at hblank
      exact absurd (Option.some.inj hblank) hne

theorem chosenEndpoint_eq (h : env.Blanks bare) (hshadows : ¬env.Shadows bare overrides) :
    chosenEndpoint overrides env rpc = chosenEndpoint overrides bare rpc := by
  by_cases hover : overrides.field "endpoint" = .null
  · rw [chosenEndpoint, chosenEndpoint, environmentEndpoint_eq h hshadows hover]
  · rw [chosenEndpoint, chosenEndpoint, first_of_ne_null hover, first_of_ne_null hover]

theorem connection_eq_of_not_shadows (h : env.Blanks bare) (hshadows : ¬env.Shadows bare overrides) :
    Settings.connection overrides env path file = Settings.connection overrides bare path file := by
  rw [connection_eq_finish, connection_eq_finish]
  simp only [variableOf_eq h "PORT" (by decide), chosenEndpoint_eq h hshadows, finish_eq h]

theorem chosenEndpoint_of_shadows (hshadows : env.Shadows bare overrides) :
    chosenEndpoint overrides env rpc = .text "" := by
  rw [chosenEndpoint, hshadows.override, environmentEndpoint_of_empty hshadows.endpoint, environmentValue,
    hshadows.url]
  rfl

theorem chosenEndpoint_of_unset (h : env.Blanks bare) (hshadows : env.Shadows bare overrides) :
    chosenEndpoint overrides bare rpc = rpc.field "endpoint" := by
  have hempty : ∀ text, bare.lookup "DGB_RPC_ENDPOINT" = some text → text = "" := by
    rcases h.endpoint "DGB_RPC_ENDPOINT" (by decide) with hsame | ⟨-, hnone⟩
    · rw [← hsame]
      exact hshadows.endpoint
    · rw [hnone]
      exact nofun
  rw [chosenEndpoint, hshadows.override, environmentEndpoint_of_empty hempty, environmentValue, hshadows.unset]
  exact first_singleton _

theorem connection_of_shadows (h : env.Blanks bare) (hshadows : env.Shadows bare overrides)
    (hport : port? "environment" (variableOf bare "PORT") = .ok environmentPort) :
    Settings.connection overrides bare path file =
      (section? path file >>= fun rpc => endpoint (rpc.field "endpoint") >>= fun parts =>
        (Settings.connection overrides env path file).map (parts.below overrides).over) := by
  rw [connection_eq_finish, connection_eq_finish]
  simp only [variableOf_eq h "PORT" (by decide), hport, chosenEndpoint_of_shadows hshadows,
    chosenEndpoint_of_unset h hshadows, finish_eq h]
  cases section? path file with
  | error fault => rfl
  | ok rpc =>
      change (endpoint (rpc.field "endpoint") >>= _) = (endpoint (rpc.field "endpoint") >>= _)
      cases endpoint (rpc.field "endpoint") with
      | error fault => rfl
      | ok parts => exact finish_eq_over overrides bare path rpc environmentPort parts

theorem connection_of_port_error {fault : SettingsFault} (h : env.Blanks bare)
    (hport : port? "environment" (variableOf bare "PORT") = .error fault) :
    Settings.connection overrides env path file = Settings.connection overrides bare path file := by
  rw [connection_eq_finish, connection_eq_finish]
  simp only [variableOf_eq h "PORT" (by decide), hport]
  cases section? path file <;> rfl

end Settings

/-- A connection stays as it is when the endpoint that is found is put over it, below the overrides. -/
def Settings.Idle (overrides : Value) (found : Except SettingsFault Settings.Parts)
    (x : Except SettingsFault Connection) : Prop :=
  match found, x with
  | .error fault, x => x = .error fault
  | .ok _, .error _ => True
  | .ok parts, .ok c => (parts.below overrides).Agrees c

theorem Settings.idle_iff {overrides : Value} {found : Except SettingsFault Settings.Parts}
    {x : Except SettingsFault Connection} :
    x = (found >>= fun parts => x.map (parts.below overrides).over) ↔ Idle overrides found x := by
  cases found with
  | error fault => exact Iff.rfl
  | ok parts =>
      cases x with
      | error fault => exact iff_of_true rfl trivial
      | ok c =>
          change Except.ok c = .ok _ ↔ _
          rw [Except.ok.injEq, eq_comm, Parts.over_eq_iff]
          rfl

namespace Session

variable {s : Session} {path : Option String} {env bare : Environment} {overrides : Value}

theorem connection_eq_of_not_shadows (h : env.Blanks bare) (hshadows : ¬env.Shadows bare overrides) :
    s.connection path (some env) overrides = s.connection path (some bare) overrides := by
  rw [Session.connection, Session.connection]
  exact bind_congr fun found => Settings.connection_eq_of_not_shadows h hshadows

theorem connection_of_port_error (h : env.Blanks bare)
    (hport : ¬Passes (Settings.port? "environment" (Settings.variableOf bare "PORT"))) :
    s.connection path (some env) overrides = s.connection path (some bare) overrides := by
  rw [Session.connection, Session.connection]
  refine bind_congr fun found => ?_
  cases hfault : Settings.port? "environment" (Settings.variableOf bare "PORT") with
  | error fault => exact Settings.connection_of_port_error h hfault
  | ok port => exact absurd ⟨port, hfault⟩ hport

/-- With the variable unset, the endpoint of the file is put over what the connection is with an empty one. -/
theorem connection_of_shadows (h : env.Blanks bare) (hshadows : env.Shadows bare overrides)
    (hport : Passes (Settings.port? "environment" (Settings.variableOf bare "PORT"))) :
    s.connection path (some bare) overrides =
      (s.fileEndpoint path >>= fun parts =>
        (s.connection path (some env) overrides).map (parts.below overrides).over) := by
  obtain ⟨environmentPort, hport⟩ := hport
  cases hconfig : s.config path with
  | error fault =>
      rw [Session.connection, Session.fileEndpoint, hconfig]
      rfl
  | ok found =>
      obtain ⟨name, file⟩ := found
      rw [Session.connection_of_config hconfig, Session.connection_of_config hconfig, Session.fileEndpoint, hconfig]
      change Settings.connection overrides bare name file = _
      rw [Settings.connection_of_shadows h hshadows hport]
      exact (bind_assoc _ _ _).symm

end Session

/-- An empty endpoint variable counts as an unset one, unless it is the second one, nothing above it names an
endpoint and the file has one that matters: that one is hidden. -/
theorem empty_endpoint_counts_as_unset_iff (s : Session) (path : Option String) (env bare : Environment)
    (overrides : Value) (h : env.Blanks bare) :
    (s.connection path (some env) overrides = s.connection path (some bare) overrides ↔
        (env.Shadows bare overrides → Passes (Settings.port? "environment" (Settings.variableOf bare "PORT")) →
          Settings.Idle overrides (s.fileEndpoint path) (s.connection path (some env) overrides))) ∧
      (env.Shadows bare overrides → Passes (Settings.port? "environment" (Settings.variableOf bare "PORT")) →
        s.connection path (some bare) overrides =
          (s.fileEndpoint path >>= fun parts =>
            (s.connection path (some env) overrides).map (parts.below overrides).over)) := by
  refine ⟨?_, fun hshadows hport => Session.connection_of_shadows h hshadows hport⟩
  constructor
  · intro hsame hshadows hport
    rw [Session.connection_of_shadows h hshadows hport] at hsame
    exact Settings.idle_iff.mp hsame
  · intro hidle
    by_cases hshadows : env.Shadows bare overrides
    · by_cases hport : Passes (Settings.port? "environment" (Settings.variableOf bare "PORT"))
      · rw [Session.connection_of_shadows h hshadows hport]
        exact Settings.idle_iff.mpr (hidle hshadows hport)
      · exact Session.connection_of_port_error h hport
    · exact Session.connection_eq_of_not_shadows h hshadows

theorem Environment.blanks_cons {bare : Environment} {name : String} (hname : name ∈ endpointVariables)
    (hunset : bare.lookup name = none) : Blanks ((name, "") :: bare) bare := by
  have hlookup (other : String) (hne : other ≠ name) : List.lookup other ((name, "") :: bare) = bare.lookup other := by
    rw [List.lookup_cons, beq_false_of_ne hne]
  refine ⟨fun other hother => hlookup other ?_, fun other _ => ?_⟩
  · rintro rfl
    exact hother hname
  · by_cases hsame : other = name
    · subst hsame
      exact .inr ⟨List.lookup_cons_self, hunset⟩
    · exact .inl (hlookup other hsame)

def endpointFile : String := "rpc:\n  user: u\n  password: p\n  endpoint: http://filehost:2222\n"

theorem empty_endpoint_counts_as_unset_iff_sample :
    (sessionOf endpointFile).connection none (some [("DGB_RPC_ENDPOINT", "")]) .null =
      (sessionOf endpointFile).connection none (some []) .null := by
  have hblanks : Environment.Blanks [("DGB_RPC_ENDPOINT", "")] [] := Environment.blanks_cons (by decide) rfl
  refine (empty_endpoint_counts_as_unset_iff (sessionOf endpointFile) none _ [] .null hblanks).1.mpr ?_
  intro hshadows
  cases hshadows.url

/-- An empty second variable sends the caller to the default node instead of the one that the file names. -/
theorem empty_url_hides_file_endpoint :
    Environment.Blanks [("DGB_RPC_URL", "")] [] ∧
      (∃ c, (sessionOf endpointFile).connection none (some [("DGB_RPC_URL", "")]) .null = .ok c ∧
        c.baseUrl? = some "http://127.0.0.1:14022") ∧
      ∃ c, (sessionOf endpointFile).connection none (some []) .null = .ok c ∧
        c.baseUrl? = some "http://filehost:2222" :=
  ⟨Environment.blanks_cons (by decide) rfl, by decide +kernel, by decide +kernel⟩

end PaymentUri
