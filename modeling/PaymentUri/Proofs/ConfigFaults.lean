import PaymentUri.Proofs.Connection

namespace PaymentUri

open Endpoint (Url)

/-- Nothing, or a text that has a value or is malformed. -/
def Found.IsReadable : Found → Prop
  | .nothing => True
  | .file text => FailsOnly (· = .malformed) (Yaml.read text)
  | _ => False

instance Found.decidableIsReadable : DecidablePred Found.IsReadable
  | .nothing => .isTrue trivial
  | .file text => decidableFailsOnly (Yaml.read text)
  | .directory | .tooLong | .garbled _ => .isFalse id

/-- The configuration path that is meant leads somewhere, and what is found there is of one kind. -/
def Session.LeadsTo (s : Session) (p : Found → Prop) (path : Option String) : Prop :=
  ∃ place required, s.configPath path = .ok (place, required) ∧ p (s.files.find place)

namespace Settings

variable {overrides : Value} {env : Environment} {path source shown text : String} {file rpc v : Value}

/-- A value that is a port or can be shown as a bad one. -/
def PortPresentable (v : Value) : Prop :=
  IsBounded v ∧ ((portNumber? v).isSome = true ∨ v.isWritable = true)

def asciiText (bytes : List UInt8) : String := String.ofList (bytes.map fun b => Char.ofNat b.toNat)

/-- Nothing, or what can be read as a URL: a text, or bytes that are ASCII. -/
def EndpointPresentable : Value → Prop
  | .text s => ∃ url, Url.read s = .ok url
  | .bytes bs => (∀ b ∈ bs, b < 0x80) ∧ ∃ url, Url.read (asciiText bs) = .ok url
  | v => v.isTruthy = false

theorem failsOnly_badPort_iff {α : Type} :
    FailsOnly SettingsFault.IsConfig (.error (badPort source v) : Except SettingsFault α) ↔ v.isWritable = true := by
  rw [failsOnly_error_iff, badPort]
  split
  next h => exact iff_of_true trivial h
  next h => exact iff_of_false id h

theorem failsOnly_port?_iff : FailsOnly SettingsFault.IsConfig (port? source v) ↔ PortPresentable v := by
  by_cases hnull : v = .null
  · subst hnull
    exact iff_of_true (failsOnly_ok _) ⟨nofun, .inr rfl⟩
  by_cases hv : IsBounded v
  · rw [PortPresentable, and_iff_right hv, port?_of_bounded hnull hv]
    cases portNumber? v with
    | none => simpa using failsOnly_badPort_iff (α := Option Int)
    | some n => exact iff_of_true (failsOnly_ok _) (.inl rfl)
  · refine iff_of_false ?_ fun h => hv h.1
    obtain ⟨x, rfl, hinf⟩ := exists_of_not_isBounded hv
    rw [port?_of_infinite hinf, failsOnly_error_iff]
    exact id

theorem failsOnly_endpointUrl_iff :
    FailsOnly SettingsFault.IsConfig (endpointUrl shown text) ↔ ∃ url, Url.read text = .ok url := by
  rw [endpointUrl]
  split
  next fault hread =>
    rw [failsOnly_error_iff, hread]
    exact iff_of_false id (by simp)
  next url hread =>
    refine iff_of_true ?_ ⟨url, hread⟩
    split
    next => exact (failsOnly_error_iff _).mpr trivial
    next =>
      split
      next => exact (failsOnly_error_iff _).mpr trivial
      next => exact failsOnly_ok _

theorem failsOnly_endpointText_iff :
    FailsOnly SettingsFault.IsConfig (endpointText text) ↔ ∃ url, Url.read text = .ok url := by
  rw [endpointText, failsOnly_bind_iff, failsOnly_endpointUrl_iff]
  exact and_iff_left fun _ _ => failsOnly_ok _

theorem failsOnly_endpointBytes_iff {bytes : List UInt8} :
    FailsOnly SettingsFault.IsConfig (endpointBytes bytes) ↔
      (∀ b ∈ bytes, b < 0x80) ∧ ∃ url, Url.read (asciiText bytes) = .ok url := by
  rw [endpointBytes]
  split
  next i hfind =>
    refine iff_of_false (mt (failsOnly_error_iff _).mp id) ?_
    rintro ⟨hascii, -⟩
    obtain ⟨hi, hbyte, -⟩ := List.findIdx?_eq_some_iff_getElem.mp hfind
    exact UInt8.not_lt.mpr (of_decide_eq_true hbyte) (hascii _ (List.getElem_mem hi))
  next hfind =>
    have hascii : ∀ b ∈ bytes, b < 0x80 := by
      intro b hb
      have hnone := List.findIdx?_eq_none_iff.mp (Option.eq_none_iff_forall_ne_some.mpr hfind) b hb
      exact UInt8.not_le.mp (of_decide_eq_false hnone)
    rw [and_iff_right hascii]
    dsimp only
    rw [failsOnly_bind_iff, failsOnly_endpointUrl_iff]
    exact and_iff_left fun _ _ => failsOnly_ok _

theorem failsOnly_endpoint_iff : FailsOnly SettingsFault.IsConfig (endpoint v) ↔ EndpointPresentable v := by
  rw [endpoint.eq_def]
  by_cases hv : v.isTruthy = true
  · rw [if_neg (by simp [hv])]
    split
    next s => exact failsOnly_endpointText_iff
    next bs => exact failsOnly_endpointBytes_iff
    next hs hb =>
      refine iff_of_false (mt (failsOnly_error_iff _).mp id) ?_
      cases v with
      | text s => exact absurd rfl (hs s)
      | bytes bs => exact absurd rfl (hb bs)
      | _ => exact fun h => ne_true_of_eq_false h hv
  · have hv' := eq_false_of_ne_true hv
    rw [if_pos (by simp [hv'])]
    refine iff_of_true (failsOnly_ok _) ?_
    cases v with
    | text s =>
        obtain rfl : s = "" := by simpa [Value.isTruthy] using hv'
        exact ⟨_, rfl⟩
    | bytes bs =>
        obtain rfl : bs = [] := by simpa [Value.isTruthy] using hv'
        exact ⟨nofun, _, rfl⟩
    | _ => exact hv'

theorem failsOnly_section : FailsOnly SettingsFault.IsConfig (section? path file) := by
  rw [section?]
  split
  next => exact failsOnly_ok _
  next =>
    split
    next => exact failsOnly_ok _
    next => exact (failsOnly_error_iff _).mpr trivial

theorem failsOnly_checkCaller : FailsOnly SettingsFault.IsConfig (checkCaller overrides env rpc) :=
  failsOnly_ite ((failsOnly_error_iff _).mpr trivial) (failsOnly_ok ())

theorem failsOnly_environmentPort (name : String) :
    FailsOnly SettingsFault.IsConfig (port? source (variableOf env name)) := by
  rw [failsOnly_port?_iff, variableOf, environmentValue]
  cases env.lookup ("DGB_RPC_" ++ name) <;> exact ⟨nofun, .inr rfl⟩

/-- The settings that are looked at are presentable: each of them, if everything before it passes. -/
structure Presentable (overrides : Value) (env : Environment) (rpc : Value) : Prop where
  endpoint : Passes (port? "environment" (variableOf env "PORT")) →
    EndpointPresentable (chosenEndpoint overrides env rpc)
  overridePort : Passes (port? "environment" (variableOf env "PORT")) →
    Passes (Settings.endpoint (chosenEndpoint overrides env rpc)) → Passes (checkCaller overrides env rpc) →
      PortPresentable (overrides.field "port")
  filePort : Passes (port? "environment" (variableOf env "PORT")) →
    Passes (Settings.endpoint (chosenEndpoint overrides env rpc)) → Passes (checkCaller overrides env rpc) →
      Passes (port? "overrides" (overrides.field "port")) → PortPresentable (rpc.field "port")

theorem presentable_iff :
    Presentable overrides env rpc ↔
      (Passes (port? "environment" (variableOf env "PORT")) →
        EndpointPresentable (chosenEndpoint overrides env rpc) ∧
          (Passes (endpoint (chosenEndpoint overrides env rpc)) → Passes (checkCaller overrides env rpc) →
            PortPresentable (overrides.field "port") ∧
              (Passes (port? "overrides" (overrides.field "port")) → PortPresentable (rpc.field "port")))) := by
  constructor
  · intro h hport
    exact ⟨h.endpoint hport, fun hparts hcaller =>
      ⟨h.overridePort hport hparts hcaller, h.filePort hport hparts hcaller⟩⟩
  · intro h
    exact ⟨fun hport => (h hport).1, fun hport hparts hcaller => ((h hport).2 hparts hcaller).1,
      fun hport hparts hcaller => ((h hport).2 hparts hcaller).2⟩

theorem failsOnly_connection_iff :
    FailsOnly SettingsFault.IsConfig (Settings.connection overrides env path file) ↔
      ∀ rpc, section? path file = .ok rpc → Presentable overrides env rpc := by
  rw [connection_eq, failsOnly_bind_iff, and_iff_right failsOnly_section]
  refine forall₂_congr fun rpc _ => ?_
  rw [presentable_iff]
  -- one stage after the other, what follows being asked only if the stage passes
  refine (failsOnly_bind_iff_passes fun _ => ?_).trans (and_iff_right (failsOnly_environmentPort _))
  refine (failsOnly_bind_iff_passes fun _ => ?_).trans (and_congr_left' failsOnly_endpoint_iff)
  refine (failsOnly_bind_iff_passes fun _ => ?_).trans (and_iff_right failsOnly_checkCaller)
  refine (failsOnly_bind_iff_passes fun _ => ?_).trans (and_congr_left' failsOnly_port?_iff)
  rw [failsOnly_bind_iff, failsOnly_port?_iff]
  exact and_iff_left fun _ _ => failsOnly_ok _

theorem failsOnly_readFile_iff {found : Found} {required : Bool} :
    FailsOnly SettingsFault.IsConfig (readFile path required found) ↔ found.IsReadable := by
  cases found with
  | directory | tooLong | garbled =>
      rw [readFile, failsOnly_error_iff]
      exact Iff.rfl
  | nothing => exact iff_of_true (failsOnly_ite ((failsOnly_error_iff _).mpr trivial) (failsOnly_ok _)) trivial
  | file text =>
      rw [readFile, Found.IsReadable]
      split
      next hread => simp [hread, SettingsFault.IsConfig]
      next fault hne hread =>
        rw [hread, failsOnly_error_iff, failsOnly_error_iff]
        exact iff_of_false id hne
      next v hread =>
        rw [hread]
        refine iff_of_true ?_ (failsOnly_ok v)
        split
        next => exact failsOnly_ok _
        next =>
          split
          next => exact failsOnly_ok _
          next => exact (failsOnly_error_iff _).mpr trivial

end Settings

theorem Session.failsOnly_config_iff {s : Session} {path : Option String} :
    FailsOnly SettingsFault.IsConfig (s.config path) ↔ s.LeadsTo Found.IsReadable path := by
  cases h : s.configPath path with
  | error fault =>
      rw [config, h]
      refine iff_of_false (mt (failsOnly_error_iff _).mp id) ?_
      rintro ⟨place, required, hplace, -⟩
      cases h.symm.trans hplace
  | ok found =>
      obtain ⟨place, required⟩ := found
      rw [config_of_configPath h, failsOnly_bind_iff, Settings.failsOnly_readFile_iff]
      refine (and_iff_left fun _ _ => failsOnly_ok _).trans ⟨fun hfound => ⟨_, _, h, hfound⟩, ?_⟩
      rintro ⟨place', required', hplace, hfound⟩
      cases h.symm.trans hplace
      exact hfound

/-- What is wrong with the settings of a connection is told as a faulty configuration exactly if the configuration is
absent or a text that is read or malformed, and those of its settings that are looked at are presentable. No connection
is without a caller. -/
theorem connection_fails_only_config_iff (s : Session) (path : Option String) (env : Option Environment)
    (overrides : Value) :
    (∀ c, s.connection path env overrides = .ok c → c.user.isTruthy = true ∧ c.password.isTruthy = true) ∧
      (FailsOnly SettingsFault.IsConfig (s.connection path env overrides) ↔
        s.LeadsTo Found.IsReadable path ∧
          ∀ name file rpc, s.config path = .ok (name, file) → Settings.section? name file = .ok rpc →
            Settings.Presentable overrides (env.getD s.environment) rpc) := by
  constructor
  · intro c hc
    obtain ⟨name, file, rpc, pieces, -, hgathered, rfl⟩ := Session.connection_eq_ok_iff.mp hc
    exact Settings.checkCaller_eq_ok_iff.mp hgathered.caller_eq
  · rw [Session.connection, failsOnly_bind_iff, Session.failsOnly_config_iff, Prod.forall]
    refine and_congr_right fun _ => ?_
    constructor
    · intro h name file rpc hfile hrpc
      exact Settings.failsOnly_connection_iff.mp (h name file hfile) rpc hrpc
    · intro h name file hfile
      exact Settings.failsOnly_connection_iff.mpr fun rpc => h name file rpc hfile

theorem connection_fails_only_config_iff_sample :
    FailsOnly SettingsFault.IsConfig
      (({ defaultPath := "default.yaml" } : Session).connection none
        (some [("DGB_RPC_USER", "user"), ("DGB_RPC_PASSWORD", "password"), ("DGB_RPC_ENDPOINT", "http://[::1]:80")])
        (.map [(.text "port", .list [.text "8332"])])) := by
  refine (connection_fails_only_config_iff { defaultPath := "default.yaml" } none _ _).2.mpr ⟨⟨_, _, rfl, ?_⟩, ?_⟩
  · decide +kernel
  · rintro name file rpc ⟨⟩ ⟨⟩
    exact ⟨fun _ => ⟨_, rfl⟩, fun _ _ _ => ⟨nofun, .inr rfl⟩, fun _ _ _ _ => ⟨nofun, .inr rfl⟩⟩

/-- An infinite port in a file, an endpoint with a bracket that is not closed, a path below the home of nobody and a
file that is no text are told as something else. -/
theorem connection_fails_otherwise :
    ¬FailsOnly SettingsFault.IsConfig
        (Session.connection
          { defaultPath := "default.yaml"
            files := { contents := [(["default.yaml"], "rpc:\n  user: u\n  password: p\n  port: .inf\n".toUTF8)] } }
          none (some []) .null) ∧
      ¬FailsOnly SettingsFault.IsConfig
        (({ defaultPath := "default.yaml" } : Session).connection none
          (some [("DGB_RPC_USER", "u"), ("DGB_RPC_PASSWORD", "p"), ("DGB_RPC_ENDPOINT", "http://[::1")]) .null) ∧
      ¬FailsOnly SettingsFault.IsConfig
        (({ defaultPath := "default.yaml" } : Session).connection (some "~nosuchuser/x") (some []) .null) ∧
      ¬FailsOnly SettingsFault.IsConfig
        (Session.connection
          { defaultPath := "default.yaml", files := { contents := [(["default.yaml"], ⟨#[0xE9]⟩)] } }
          none (some []) .null) := by
  decide +kernel

end PaymentUri
