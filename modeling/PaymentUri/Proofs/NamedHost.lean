import PaymentUri.Proofs.ConfigFaults

namespace PaymentUri

open Endpoint (Url)

namespace Settings

variable {overrides v : Value} {env : Environment} {path source text : String} {file rpc : Value}

theorem endpointText_eq_badEndpoint_iff :
    endpointText text = .error (.config (.badEndpoint text)) ↔
      ∃ url, Url.read text = .ok url ∧ url.scheme = "" ∧ url.host? = none := by
  rw [endpointText, bind_eq_error_iff, endpointUrl]
  cases hread : Url.read text with
  | error fault => simp
  | ok url =>
      dsimp only
      by_cases hnone : url.scheme = "" ∧ url.host? = none
      · rw [if_pos hnone]
        exact iff_of_true (.inl rfl) ⟨url, rfl, hnone⟩
      · rw [if_neg hnone]
        refine iff_of_false ?_ ?_
        · rintro (h | ⟨⟨url, port⟩, -, h⟩)
          · split at h <;> cases h
          · cases h
        · rintro ⟨_, ⟨⟩, h⟩
          exact hnone h

theorem badPort_ne_badEndpoint : badPort source v ≠ .config (.badEndpoint text) := by
  rw [badPort]
  split <;> simp

theorem port?_ne_badEndpoint : port? source v ≠ .error (.config (.badEndpoint text)) := by
  by_cases hnull : v = .null
  · subst hnull
    simp [port?]
  by_cases hv : IsBounded v
  · rw [port?_of_bounded hnull hv]
    cases portNumber? v with
    | none => exact fun h => badPort_ne_badEndpoint (Except.error.inj h)
    | some n => simp
  · obtain ⟨x, rfl, hinf⟩ := exists_of_not_isBounded hv
    rw [port?_of_infinite hinf]
    simp

theorem checkCaller_ne_badEndpoint : checkCaller overrides env rpc ≠ .error (.config (.badEndpoint text)) := by
  rw [checkCaller]
  split <;> simp

theorem connection_eq_badEndpoint_iff (overrides : Value) (env : Environment) (text : String)
    (hrpc : section? path file = .ok rpc) :
    Settings.connection overrides env path file = .error (.config (.badEndpoint text)) ↔
      Passes (port? "environment" (variableOf env "PORT")) ∧
        endpoint (chosenEndpoint overrides env rpc) = .error (.config (.badEndpoint text)) := by
  rw [connection_eq, hrpc, Passes]
  simp only [bind_eq_error_iff, port?_ne_badEndpoint, checkCaller_ne_badEndpoint, reduceCtorEq, Except.ok.injEq,
    exists_eq_left', false_or, and_false, exists_false, or_false, exists_and_right]

/-- Without a host in the overrides the one of the URL is taken, and where it has none, what stands below it. -/
theorem Gathered.host_of_text {name : String} {pieces : Pieces}
    (h : Gathered overrides env name file rpc pieces) (hhost : overrides.field "host" = .null)
    (hchosen : chosenEndpoint overrides env rpc = .text text) (hne : text ≠ "") :
    ∃ url, Url.read text = .ok url ∧
      (∀ host, url.host? = some host → (pieces.connection overrides env rpc).host = .text host) ∧
      (url.host? = none → url.scheme ≠ "" ∧
        (pieces.connection overrides env rpc).host =
          first [variableOf env "HOST", rpc.field "host", .text defaultHost]) := by
  have hparts := h.parts_eq
  rw [hchosen, endpoint_text_eq hne, endpointText_eq_ok_iff] at hparts
  obtain ⟨url, port, hread, hsaid, -, hparts⟩ := hparts
  refine ⟨url, hread, fun host hnamed => ?_, fun hnone => ⟨fun hscheme => hsaid ⟨hscheme, hnone⟩, ?_⟩⟩
  · rw [Pieces.connection, ← hparts, partsOf, hnamed, hhost]
    rfl
  · rw [Pieces.connection, ← hparts, partsOf, hnone, hhost]
    rfl

end Settings

/-- An endpoint decides the host if it names one. If it names none but has a scheme, the host is taken from what
stands below it, and only if it has no scheme either it is refused: as no endpoint, unless the port of the
environment is refused before it. -/
theorem endpoint_decides_named_host (s : Session) (path : Option String) (env : Option Environment)
    (overrides : Value) (name : String) (file rpc : Value) (text : String)
    (hconfig : s.config path = .ok (name, file)) (hrpc : Settings.section? name file = .ok rpc)
    (hhost : overrides.field "host" = .null)
    (hchosen : Settings.chosenEndpoint overrides (env.getD s.environment) rpc = .text text) (hne : text ≠ "") :
    (∀ c, s.connection path env overrides = .ok c → ∃ url, Url.read text = .ok url ∧
        (∀ host, url.host? = some host → c.host = .text host) ∧
        (url.host? = none → url.scheme ≠ "" ∧ c.host = Settings.first
          [Settings.variableOf (env.getD s.environment) "HOST", rpc.field "host", .text Settings.defaultHost])) ∧
      (s.connection path env overrides = .error (.config (.badEndpoint text)) ↔
        Passes (Settings.port? "environment" (Settings.variableOf (env.getD s.environment) "PORT")) ∧
          ∃ url, Url.read text = .ok url ∧ url.scheme = "" ∧ url.host? = none) ∧
      ∀ url, Url.read text = .ok url → url.scheme = "" → url.host? = none →
        ∃ fault, s.connection path env overrides = .error (.config fault) := by
  have hbad := Settings.connection_eq_badEndpoint_iff overrides (env.getD s.environment) text hrpc
  rw [← Session.connection_of_config hconfig, hchosen, Settings.endpoint_text_eq hne,
    Settings.endpointText_eq_badEndpoint_iff] at hbad
  refine ⟨fun c hc => ?_, hbad, fun url hread hscheme hnone => ?_⟩
  · obtain ⟨name', file', rpc', pieces, hconfig', hgathered, rfl⟩ := Session.connection_eq_ok_iff.mp hc
    cases hconfig.symm.trans hconfig'
    cases hrpc.symm.trans hgathered.section_eq
    exact hgathered.host_of_text hhost hchosen hne
  · cases hport : Settings.port? "environment" (Settings.variableOf (env.getD s.environment) "PORT") with
    | ok port => exact ⟨_, hbad.mpr ⟨⟨port, hport⟩, url, hread, hscheme, hnone⟩⟩
    | error fault =>
        have hfails : s.connection path env overrides = .error fault := by
          rw [Session.connection_of_config hconfig, Settings.connection_eq, hrpc, hport]
          rfl
        have hconfigFault : fault.IsConfig := Settings.failsOnly_environmentPort "PORT" fault hport
        cases fault with
        | config fault => exact ⟨fault, hfails⟩
        | _ => exact hconfigFault.elim

def emptySession : Session := { defaultPath := "default.yaml" }

def offering (endpoint : String) : Environment :=
  [("DGB_RPC_USER", "u"), ("DGB_RPC_PASSWORD", "p"), ("DGB_RPC_ENDPOINT", endpoint)]

theorem endpoint_decides_named_host_sample :
    ∃ c, emptySession.connection none
        (some (("DGB_RPC_HOST", "other") :: offering "//caller@[FE80::1%Eth0]:8332/path")) .null = .ok c ∧
      c.host = .text "fe80::1%Eth0" := by
  obtain ⟨c, hc⟩ := exists_of_isOk (x := emptySession.connection none
    (some (("DGB_RPC_HOST", "other") :: offering "//caller@[FE80::1%Eth0]:8332/path")) .null) (by decide +kernel)
  have hread : ∃ url, Url.read "//caller@[FE80::1%Eth0]:8332/path" = .ok url ∧ url.host? = some "fe80::1%Eth0" := by
    decide +kernel
  obtain ⟨url, hread, hhost⟩ := hread
  obtain ⟨hdecides, -, -⟩ := endpoint_decides_named_host emptySession none
    (some (("DGB_RPC_HOST", "other") :: offering "//caller@[FE80::1%Eth0]:8332/path")) .null "default.yaml"
    (.map []) (.map []) "//caller@[FE80::1%Eth0]:8332/path" rfl rfl rfl rfl (by decide)
  obtain ⟨url', hread', hnamed, -⟩ := hdecides c hc
  cases hread.symm.trans hread'
  exact ⟨c, hc, hnamed _ hhost⟩

/-- A host and a port alone are taken for a scheme and a path, and the host for none. -/
theorem endpoint_without_slashes_names_no_host :
    ∃ url, Url.read "node.example:8332" = .ok url ∧ url.host? = none ∧
      ∃ c, emptySession.connection none (some (offering "node.example:8332")) .null = .ok c ∧
        c.baseUrl? = some "http://127.0.0.1:14022" := by
  decide +kernel

end PaymentUri
