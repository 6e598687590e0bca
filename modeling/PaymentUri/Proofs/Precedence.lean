import PaymentUri.Proofs.Connection

namespace PaymentUri

open Endpoint (Url)

/-- What in an environment a connection is spelled out by. -/
structure Environment.Spells (env : Environment) (c : Connection) : Prop where
  user : ∃ s, env.lookup "DGB_RPC_USER" = some s ∧ s ≠ "" ∧ c.user = .text s
  password : ∃ s, env.lookup "DGB_RPC_PASSWORD" = some s ∧ s ≠ "" ∧ c.password = .text s
  host : ∃ s, env.lookup "DGB_RPC_HOST" = some s ∧ c.host = .text s
  port : ∃ s, env.lookup "DGB_RPC_PORT" = some s ∧ Text.integer? s = some c.port
  useHttps : ∃ s, env.lookup "DGB_RPC_USE_HTTPS" = some s ∧ Settings.bool? (.text s) = some c.useHttps
  endpoint : env.lookup "DGB_RPC_ENDPOINT" = none
  url : env.lookup "DGB_RPC_URL" = none

structure Environment.Reaches (env : Environment) (user password endpoint : String) : Prop where
  user : env.lookup "DGB_RPC_USER" = some user
  password : env.lookup "DGB_RPC_PASSWORD" = some password
  endpoint : env.lookup "DGB_RPC_ENDPOINT" = some endpoint

namespace Settings

variable {overrides : Value} {env : Environment} {path text user password host : String} {file rpc v w : Value}
  {pieces : Pieces} {useHttps : Bool} {url : Url} {c : Connection} {port : Nat}

theorem variableOf_of_lookup (name : String) {value : String} (h : env.lookup ("DGB_RPC_" ++ name) = some value) :
    variableOf env name = .text value := by
  rw [variableOf, environmentValue, h]
  rfl

/-- Overrides that leave nothing to the other sources. -/
structure Complete (overrides : Value) (useHttps : Bool) : Prop where
  user : overrides.field "user" ≠ .null
  password : overrides.field "password" ≠ .null
  host : overrides.field "host" ≠ .null
  port : overrides.field "port" ≠ .null
  useHttps : bool? (overrides.field "use_https") = some useHttps

theorem Gathered.connection_of_complete (h : Gathered overrides env path file rpc pieces)
    (hcomplete : Complete overrides useHttps) :
    ∃ n, portNumber? (overrides.field "port") = some n ∧
      pieces.connection overrides env rpc =
        ⟨overrides.field "user", overrides.field "password", overrides.field "host", n, useHttps⟩ := by
  obtain ⟨n, hn, hport⟩ := exists_port_of_ne_null hcomplete.port h.overridePort_eq
  refine ⟨n, hn, ?_⟩
  rw [Pieces.connection, chosen, chosen, first_of_ne_null hcomplete.user, first_of_ne_null hcomplete.password,
    first_of_ne_null hcomplete.host, hport, hcomplete.useHttps]
  rfl

theorem isTruthy_of_scheme (hread : Url.read text = .ok url) (hscheme : url.scheme ≠ "") :
    (Value.text text).isTruthy = true := by
  have hne : text ≠ "" := by
    rintro rfl
    cases hread
    exact hscheme rfl
  exact bne_iff_ne.mpr hne

theorem endpoint_text (hread : Url.read text = .ok url) (hscheme : url.scheme ≠ "")
    (hport : url.port? = .ok (some port)) :
    endpoint (.text text) =
      .ok { host := .ofText? url.host?, port := some port, useHttps := some (url.scheme == "https") } := by
  rw [endpoint_text_eq (bne_iff_ne.mp (isTruthy_of_scheme hread hscheme)), endpointText_eq_ok_iff]
  refine ⟨url, some port, hread, fun h => hscheme h.1, hport, ?_⟩
  rw [partsOf, if_neg hscheme]
  rfl

theorem field_null (key : String) : Value.null.field key = .null := rfl

theorem connection_of_none (hnone : ∀ key, overrides.field key = .null) :
    Settings.connection overrides env path file = Settings.connection .null env path file := by
  have hsame : overrides.field = Value.null.field := funext hnone
  rw [Settings.connection, hsame]
  rfl

theorem Gathered.connection_of_reaches (h : Gathered .null env path file rpc pieces)
    (henv : env.Reaches user password text)
    (hread : Url.read text = .ok url) (hscheme : url.scheme ≠ "") (hhost : url.host? = some host)
    (hport : url.port? = .ok (some port)) :
    pieces.connection .null env rpc =
      ⟨.text user, .text password, .text host, port, url.scheme == "https"⟩ := by
  have hchosen : chosenEndpoint .null env rpc = .text text := by
    rw [chosenEndpoint, field_null, first_null, environmentEndpoint, environmentValue, henv.endpoint, Value.ofText?,
      isTruthy_of_scheme hread hscheme]
    rfl
  have hparts := h.parts_eq
  rw [hchosen, endpoint_text hread hscheme hport, hhost] at hparts
  rw [Pieces.connection, chosen, chosen, variableOf_of_lookup "USER" henv.user,
    variableOf_of_lookup "PASSWORD" henv.password, ← Except.ok.inj hparts, ← Except.ok.inj h.overridePort_eq]
  rfl

/-- What an endpoint says, over what a connection is otherwise. -/
def Parts.over (parts : Parts) (c : Connection) : Connection :=
  { c with
    host := first [parts.host, c.host]
    port := firstSome [parts.port] c.port
    useHttps := firstSome [parts.useHttps] c.useHttps }

/-- An endpoint says nothing else than what a connection is. -/
structure Parts.Agrees (parts : Parts) (c : Connection) : Prop where
  host : parts.host = .null ∨ parts.host = c.host
  port : parts.port = none ∨ parts.port = some c.port
  useHttps : parts.useHttps = none ∨ parts.useHttps = some c.useHttps

instance Parts.decidableSilent : (parts : Parts) → Decidable (parts = {})
  | ⟨host, port, useHttps⟩ => decidable_of_iff (host = .null ∧ port = none ∧ useHttps = none) (by simp)

theorem first_eq_iff : first [v, w] = w ↔ v = .null ∨ v = w := by
  cases v with
  | null => simp [first_singleton]
  | _ => simp [first]

theorem firstSome_eq_iff {α : Type} {o : Option α} {a : α} : firstSome [o] a = a ↔ o = none ∨ o = some a := by
  cases o with
  | none => simp [firstSome]
  | some b => simp [firstSome]

theorem Parts.over_eq_iff {parts : Parts} : parts.over c = c ↔ parts.Agrees c := by
  rw [Parts.over, Connection.mk.injEq, first_eq_iff, firstSome_eq_iff, firstSome_eq_iff]
  constructor
  · rintro ⟨-, -, hhost, hport, huseHttps⟩
    exact ⟨hhost, hport, huseHttps⟩
  · intro h
    exact ⟨rfl, rfl, h.host, h.port, h.useHttps⟩

theorem first_cons_text (v : Value) (s : String) (vs : List Value) :
    first (v :: .text s :: vs) = first [v, .text s] := by
  cases v <;> rfl

theorem firstSome_cons_some {α : Type} (o : Option α) (a : α) (os : List (Option α)) (d : α) :
    firstSome (o :: some a :: os) d = firstSome [o] a := by
  cases o <;> rfl

theorem Gathered.connection_of_spells (h : Gathered .null env path file rpc pieces) (henv : env.Spells c) :
    endpoint (rpc.field "endpoint") = .ok pieces.parts ∧ pieces.connection .null env rpc = pieces.parts.over c := by
  obtain ⟨user, huser, -, hcuser⟩ := henv.user
  obtain ⟨password, hpassword, -, hcpassword⟩ := henv.password
  obtain ⟨host, hhost, hchost⟩ := henv.host
  obtain ⟨port, hport, hcport⟩ := henv.port
  obtain ⟨word, hword, hchttps⟩ := henv.useHttps
  -- no other source has an endpoint, so it is the one of the file
  have hchosen : chosenEndpoint .null env rpc = rpc.field "endpoint" := by
    rw [chosenEndpoint, field_null, environmentEndpoint, environmentValue, environmentValue, henv.endpoint, henv.url]
    exact first_singleton _
  have henvironment := h.environmentPort_eq
  rw [variableOf_of_lookup "PORT" hport] at henvironment
  have hset : Value.text port ≠ .null := by simp
  obtain ⟨n, hn, hsome⟩ := exists_port_of_ne_null hset henvironment
  have hsame : c.port = n := Option.some.inj (hcport.symm.trans hn)
  have hnull : bool? Value.null = none := rfl
  refine ⟨hchosen ▸ h.parts_eq, ?_⟩
  rw [Pieces.connection, chosen, chosen, variableOf_of_lookup "USER" huser,
    variableOf_of_lookup "PASSWORD" hpassword, variableOf_of_lookup "HOST" hhost,
    variableOf_of_lookup "USE_HTTPS" hword, hchttps, hsome, ← Except.ok.inj h.overridePort_eq, Parts.over, hcuser,
    hcpassword, hchost, hsame]
  simp only [field_null, hnull, first_null, first_text, first_cons_text, firstSome_none, firstSome_cons_some]

end Settings

/-- What the endpoint in a configuration file says. -/
def Session.fileEndpoint (s : Session) (path : Option String) : Except SettingsFault Settings.Parts := do
  let (path, file) ← s.config path
  let rpc ← Settings.section? path file
  Settings.endpoint (rpc.field "endpoint")

section

variable {s s' : Session} {path path' : Option String} {env env' : Option Environment} {overrides : Value}
  {user password text host : String} {url : Url} {port : Nat} {named c : Connection}

theorem Session.connection_of_none (hnone : ∀ key, overrides.field key = .null) :
    s.connection path env overrides = s.connection path env .null := by
  simp only [Session.connection, Settings.connection_of_none hnone]

theorem Session.connection_of_spells (hnone : ∀ key, overrides.field key = .null)
    (henv : (env.getD s.environment).Spells named) (h : s.connection path env overrides = .ok c) :
    ∃ parts, s.fileEndpoint path = .ok parts ∧ c = parts.over named := by
  rw [Session.connection_of_none hnone] at h
  obtain ⟨name, file, rpc, pieces, hconfig, hgathered, rfl⟩ := Session.connection_eq_ok_iff.mp h
  obtain ⟨hendpoint, hover⟩ := hgathered.connection_of_spells henv
  refine ⟨pieces.parts, ?_, hover⟩
  rw [Session.fileEndpoint, hconfig, ← hendpoint]
  change (Settings.section? name file >>= fun rpc => Settings.endpoint (rpc.field "endpoint")) = _
  rw [hgathered.section_eq]
  rfl

theorem Session.connection_of_complete {useHttps : Bool} (hcomplete : Settings.Complete overrides useHttps)
    (h : s.connection path env overrides = .ok c) :
    ∃ n, Settings.portNumber? (overrides.field "port") = some n ∧
      c = ⟨overrides.field "user", overrides.field "password", overrides.field "host", n, useHttps⟩ := by
  obtain ⟨name, file, rpc, pieces, -, hgathered, rfl⟩ := Session.connection_eq_ok_iff.mp h
  exact hgathered.connection_of_complete hcomplete

theorem Session.connection_of_reaches (hnone : ∀ key, overrides.field key = .null)
    (henv : (env.getD s.environment).Reaches user password text) (hread : Url.read text = .ok url)
    (hscheme : url.scheme ≠ "") (hhost : url.host? = some host) (hport : url.port? = .ok (some port))
    (h : s.connection path env overrides = .ok c) :
    c = ⟨.text user, .text password, .text host, port, url.scheme == "https"⟩ := by
  rw [Session.connection_of_none hnone] at h
  obtain ⟨name, file, rpc, pieces, -, hgathered, rfl⟩ := Session.connection_eq_ok_iff.mp h
  exact hgathered.connection_of_reaches henv hread hscheme hhost hport

end

/-- With an environment that spells out a connection and no overrides, nothing in a configuration file but its
endpoint is seen: the connection is the one that is spelled out exactly if the endpoint agrees with it. -/
theorem spelled_environment_hides_file (s s' : Session) (path path' : Option String)
    (env env' : Option Environment) (overrides overrides' : Value) (named : Connection)
    (hnone : ∀ key, overrides.field key = .null) (hnone' : ∀ key, overrides'.field key = .null)
    (henv : (env.getD s.environment).Spells named) (henv' : (env'.getD s'.environment).Spells named) :
    (∀ c, s.connection path env overrides = .ok c →
      ∃ parts, s.fileEndpoint path = .ok parts ∧ c = parts.over named ∧ (c = named ↔ parts.Agrees named)) ∧
      (∀ c c', s.connection path env overrides = .ok c → s'.connection path' env' overrides' = .ok c' →
        s.fileEndpoint path = s'.fileEndpoint path' → c = c') := by
  constructor
  · intro c hc
    obtain ⟨parts, hparts, rfl⟩ := Session.connection_of_spells hnone henv hc
    exact ⟨parts, hparts, rfl, Settings.Parts.over_eq_iff⟩
  · intro c c' hc hc' hsame
    obtain ⟨parts, hparts, rfl⟩ := Session.connection_of_spells hnone henv hc
    obtain ⟨parts', hparts', rfl⟩ := Session.connection_of_spells hnone' henv' hc'
    rw [hparts, hparts'] at hsame
    rw [Except.ok.inj hsame]

def spelledEnvironment : Environment :=
  [("DGB_RPC_USER", "u"), ("DGB_RPC_PASSWORD", "p"), ("DGB_RPC_HOST", "envhost"), ("DGB_RPC_PORT", "1111"),
    ("DGB_RPC_USE_HTTPS", "1")]

theorem spelledEnvironment_spells :
    spelledEnvironment.Spells ⟨.text "u", .text "p", .text "envhost", 1111, true⟩ where
  user := ⟨"u", rfl, by decide, rfl⟩
  password := ⟨"p", rfl, by decide, rfl⟩
  host := ⟨"envhost", rfl, rfl⟩
  port := ⟨"1111", rfl, by decide +kernel⟩
  useHttps := ⟨"1", rfl, by decide +kernel⟩
  endpoint := rfl
  url := rfl

def sessionOf (text : String) : Session :=
  { defaultPath := "default.yaml", files := { contents := [(["default.yaml"], text.toUTF8)] } }

theorem spelled_environment_hides_file_sample :
    ∃ c, (sessionOf "rpc:\n  host: filehost\n  port: 2222\n").connection none (some spelledEnvironment) .null =
        .ok c ∧
      (sessionOf "rpc:\n  user: root\n  use_https: 0\n").connection none (some spelledEnvironment) .null = .ok c ∧
      c = ⟨.text "u", .text "p", .text "envhost", 1111, true⟩ := by
  have hnone : ∀ key, Value.null.field key = .null := fun _ => rfl
  obtain ⟨c, hc⟩ := exists_of_isOk (x := (sessionOf "rpc:\n  host: filehost\n  port: 2222\n").connection none
    (some spelledEnvironment) .null) (by decide +kernel)
  obtain ⟨c', hc'⟩ := exists_of_isOk (x := (sessionOf "rpc:\n  user: root\n  use_https: 0\n").connection none
    (some spelledEnvironment) .null) (by decide +kernel)
  have hsilent : ∃ parts, (sessionOf "rpc:\n  host: filehost\n  port: 2222\n").fileEndpoint none = .ok parts ∧
      parts = {} := by
    decide +kernel
  have hsilent' : ∃ parts, (sessionOf "rpc:\n  user: root\n  use_https: 0\n").fileEndpoint none = .ok parts ∧
      parts = {} := by
    decide +kernel
  obtain ⟨hspelled, hsame⟩ := spelled_environment_hides_file (sessionOf "rpc:\n  host: filehost\n  port: 2222\n")
    (sessionOf "rpc:\n  user: root\n  use_https: 0\n") none none (some spelledEnvironment)
    (some spelledEnvironment) .null .null _ hnone hnone spelledEnvironment_spells spelledEnvironment_spells
  obtain ⟨_, hparts, rfl⟩ := hsilent
  obtain ⟨_, hparts', rfl⟩ := hsilent'
  obtain ⟨parts, hparts'', rfl, -⟩ := hspelled c hc
  cases hparts.symm.trans hparts''
  exact ⟨_, hc, hsame _ _ hc hc' (hparts.trans hparts'.symm) ▸ hc', rfl⟩

/-- A file with an endpoint sends the caller of the environment to another node than the environment names. -/
theorem file_endpoint_beats_spelled_environment :
    ∃ named, spelledEnvironment.Spells named ∧ named.baseUrl? = some "https://envhost:1111" ∧
      ∃ c, (sessionOf "rpc:\n  endpoint: http://filehost:2222\n").connection none (some spelledEnvironment) .null =
          .ok c ∧
        c.baseUrl? = some "http://filehost:2222" :=
  ⟨_, spelledEnvironment_spells, by decide +kernel, by decide +kernel⟩

/-- Overrides that are complete, and likewise a caller and an endpoint with a scheme, a host and a port in the
environment, leave nothing of a connection to what stands below them. -/
theorem complete_source_hides_lower (s s' : Session) (path path' : Option String) (env env' : Option Environment)
    (c c' : Connection) :
    (∀ overrides useHttps, Settings.Complete overrides useHttps →
      s.connection path env overrides = .ok c → s'.connection path' env' overrides = .ok c' →
        c = c' ∧ c.user = overrides.field "user" ∧ c.password = overrides.field "password" ∧
          c.host = overrides.field "host" ∧ Settings.portNumber? (overrides.field "port") = some c.port ∧
          c.useHttps = useHttps) ∧
      (∀ (overrides overrides' : Value) (user password text host : String) (url : Url) (port : Nat),
        (∀ key, overrides.field key = .null) → (∀ key, overrides'.field key = .null) →
        (env.getD s.environment).Reaches user password text →
        (env'.getD s'.environment).Reaches user password text → Url.read text = .ok url → url.scheme ≠ "" →
        url.host? = some host → url.port? = .ok (some port) →
        s.connection path env overrides = .ok c → s'.connection path' env' overrides' = .ok c' →
          c = c' ∧ c.user = .text user ∧ c.password = .text password ∧ c.host = .text host ∧ c.port = port ∧
            (c.useHttps = true ↔ url.scheme = "https")) := by
  constructor
  · intro overrides useHttps hcomplete hc hc'
    obtain ⟨n, hn, rfl⟩ := Session.connection_of_complete hcomplete hc
    obtain ⟨n', hn', rfl⟩ := Session.connection_of_complete hcomplete hc'
    cases hn.symm.trans hn'
    exact ⟨rfl, rfl, rfl, rfl, hn, rfl⟩
  · intro overrides overrides' user password text host url port hnone hnone' henv henv' hread hscheme hhost hport hc
      hc'
    obtain rfl := Session.connection_of_reaches hnone henv hread hscheme hhost hport hc
    obtain rfl := Session.connection_of_reaches hnone' henv' hread hscheme hhost hport hc'
    exact ⟨rfl, rfl, rfl, rfl, rfl, beq_iff_eq⟩

def sampleOverrides : Value :=
  .map [(.text "user", .text "u"), (.text "password", .text "p"), (.text "host", .text "callhost"),
    (.text "port", .text "4444"), (.text "use_https", .text "no")]

theorem complete_source_hides_lower_sample :
    (∃ c, (sessionOf "rpc:\n  endpoint: http://filehost:2222\n").connection none (some []) sampleOverrides = .ok c ∧
        (sessionOf "").connection none (some spelledEnvironment) sampleOverrides = .ok c ∧
        c.host = .text "callhost") ∧
      ∃ c, (sessionOf "rpc:\n  endpoint: http://filehost:2222\n").connection none
            (some [("DGB_RPC_USER", "u"), ("DGB_RPC_PASSWORD", "p"), ("DGB_RPC_ENDPOINT", "https://envhost:3333")])
            .null = .ok c ∧
        (sessionOf "").connection none (some (("DGB_RPC_ENDPOINT", "https://envhost:3333") :: spelledEnvironment))
            .null = .ok c ∧
        c.port = 3333 := by
  constructor
  · have hcomplete : Settings.Complete sampleOverrides false := ⟨nofun, nofun, nofun, nofun, by decide +kernel⟩
    have hs : ((sessionOf "rpc:\n  endpoint: http://filehost:2222\n").connection none (some [])
        sampleOverrides).isOk = true := by
      decide +kernel
    have hs' : ((sessionOf "").connection none (some spelledEnvironment) sampleOverrides).isOk = true := by
      decide +kernel
    obtain ⟨c, hc⟩ := exists_of_isOk hs
    obtain ⟨c', hc'⟩ := exists_of_isOk hs'
    obtain ⟨rfl, -, -, hhost, -⟩ := (complete_source_hides_lower _ _ _ _ _ _ c c').1 _ _ hcomplete hc hc'
    exact ⟨c, hc, hc', hhost⟩
  · have hnone : ∀ key, Value.null.field key = .null := fun _ => rfl
    have hs : ((sessionOf "rpc:\n  endpoint: http://filehost:2222\n").connection none
        (some [("DGB_RPC_USER", "u"), ("DGB_RPC_PASSWORD", "p"), ("DGB_RPC_ENDPOINT", "https://envhost:3333")])
        .null).isOk = true := by
      decide +kernel
    have hs' : ((sessionOf "").connection none
        (some (("DGB_RPC_ENDPOINT", "https://envhost:3333") :: spelledEnvironment)) .null).isOk = true := by
      decide +kernel
    obtain ⟨c, hc⟩ := exists_of_isOk hs
    obtain ⟨c', hc'⟩ := exists_of_isOk hs'
    obtain ⟨rfl, -, -, -, hport, -⟩ := (complete_source_hides_lower _ _ _ _ _ _ c c').2 _ _ "u" "p"
      "https://envhost:3333" "envhost" _ 3333 hnone hnone ⟨rfl, rfl, rfl⟩ ⟨rfl, rfl, rfl⟩ rfl (by decide) rfl rfl
      hc hc'
    exact ⟨c, hc, hc', hport⟩

end PaymentUri
