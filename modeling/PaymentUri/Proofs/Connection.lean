import PaymentUri.Proofs.Failing

namespace PaymentUri

open Endpoint (Url)

namespace Settings

variable {overrides : Value} {env : Environment} {path source shown text : String} {file rpc v : Value}
  {vs : List Value} {url : Url} {port : Option Int} {parts : Parts} {c : Connection}

instance decidableNull : (v : Value) → Decidable (v = .null)
  | .null => .isTrue rfl
  | .bool _ | .int _ | .float _ | .text _ | .bytes _ | .date _ | .moment _ | .list _ | .pair _ _ | .set _ | .map _
  | .again _ => .isFalse nofun

@[simp]
theorem first_null (vs : List Value) : first (.null :: vs) = first vs := rfl

theorem first_of_ne_null (h : v ≠ .null) (vs : List Value) : first (v :: vs) = v := by
  cases v with
  | null => exact absurd rfl h
  | _ => rfl

@[simp]
theorem first_text (s : String) (vs : List Value) : first (.text s :: vs) = .text s := rfl

theorem first_singleton (v : Value) : first [v] = v := by
  cases v <;> rfl

@[simp]
theorem firstSome_none {α : Type} (os : List (Option α)) (d : α) : firstSome (none :: os) d = firstSome os d := rfl

def portNumber? : Value → Option Int
  | .bool b => some (if b then 1 else 0)
  | .int n => some n
  | .float x => if x.isNaN then none else some (Text.truncate x)
  | .text s => Text.integer? s
  | .bytes bs => (asciiChars? bs).bind fun cs => Text.integer? (String.ofList cs)
  | _ => none

def IsBounded (v : Value) : Prop := ∀ x, v = .float x → x.isInf = false

theorem exists_of_not_isBounded (h : ¬IsBounded v) : ∃ x, v = .float x ∧ x.isInf = true := by
  simpa [IsBounded] using h

theorem port?_of_infinite {x : Float} (h : x.isInf = true) : port? source (.float x) = .error .infinitePort :=
  if_pos h

theorem port?_of_bounded (hnull : v ≠ .null) (h : IsBounded v) :
    port? source v = (portNumber? v).elim (.error (badPort source v)) fun n => .ok (some n) := by
  cases v with
  | null => exact absurd rfl hnull
  | float x => exact if_neg (ne_true_of_eq_false (h x rfl))
  | _ => rfl

theorem exists_port_of_ne_null {port : Option Int} (hnull : v ≠ .null) (h : port? source v = .ok port) :
    ∃ n, portNumber? v = some n ∧ port = some n := by
  by_cases hv : IsBounded v
  · rw [port?_of_bounded hnull hv] at h
    cases hn : portNumber? v with
    | none =>
        rw [hn] at h
        cases h
    | some n =>
        rw [hn] at h
        exact ⟨n, rfl, (Except.ok.inj h).symm⟩
  · obtain ⟨x, rfl, hinf⟩ := exists_of_not_isBounded hv
    rw [port?_of_infinite hinf] at h
    cases h

def partsOf (url : Url) (port : Option Nat) : Parts where
  host := .ofText? url.host?
  port := port.map Int.ofNat
  useHttps := if url.scheme = "" then none else some (url.scheme == "https")

theorem endpointUrl_eq_ok_iff :
    endpointUrl shown text = .ok (url, port) ↔
      Url.read text = .ok url ∧ ¬(url.scheme = "" ∧ url.host? = none) ∧
        ∃ n, url.port? = .ok n ∧ n.map Int.ofNat = port := by
  rw [endpointUrl]
  cases hread : Url.read text with
  | error fault =>
      refine iff_of_false (by simp) ?_
      rintro ⟨h, -⟩
      cases h
  | ok read =>
      dsimp only
      by_cases hnone : read.scheme = "" ∧ read.host? = none
      · rw [if_pos hnone]
        refine iff_of_false (by simp) ?_
        rintro ⟨h, hsome, -⟩
        cases h
        exact hsome hnone
      rw [if_neg hnone]
      cases hport : read.port? with
      | error fault =>
          refine iff_of_false (by simp) ?_
          rintro ⟨h, -, n, hn, -⟩
          cases h
          rw [hport] at hn
          cases hn
      | ok n =>
          constructor
          · rintro ⟨⟩
            exact ⟨rfl, hnone, n, hport, rfl⟩
          · rintro ⟨h, -, m, hm, rfl⟩
            cases h
            rw [hport] at hm
            cases hm
            rfl

theorem endpointText_eq_ok_iff :
    endpointText text = .ok parts ↔
      ∃ url port, Url.read text = .ok url ∧ ¬(url.scheme = "" ∧ url.host? = none) ∧ url.port? = .ok port ∧
        partsOf url port = parts := by
  rw [endpointText, bind_eq_ok_iff]
  constructor
  · rintro ⟨⟨url, port⟩, hurl, hparts⟩
    obtain ⟨hread, hnone, n, hn, rfl⟩ := endpointUrl_eq_ok_iff.mp hurl
    exact ⟨url, n, hread, hnone, hn, Except.ok.inj hparts⟩
  · rintro ⟨url, n, hread, hnone, hn, rfl⟩
    exact ⟨(url, n.map Int.ofNat), endpointUrl_eq_ok_iff.mpr ⟨hread, hnone, n, hn, rfl⟩, rfl⟩

theorem endpoint_text_eq (hne : text ≠ "") : endpoint (.text text) = endpointText text := by
  have htruthy : (Value.text text).isTruthy = true := bne_iff_ne.mpr hne
  rw [endpoint, htruthy]
  rfl

def variableOf (env : Environment) (name : String) : Value := environmentValue env ("DGB_RPC_" ++ name)

def chosen (overrides : Value) (env : Environment) (rpc : Value) (key name : String) : Value :=
  first [overrides.field key, variableOf env name, rpc.field key]

def chosenEndpoint (overrides : Value) (env : Environment) (rpc : Value) : Value :=
  first [overrides.field "endpoint", environmentEndpoint env, rpc.field "endpoint"]

def checkCaller (overrides : Value) (env : Environment) (rpc : Value) : Except SettingsFault Unit :=
  if !(chosen overrides env rpc "user" "USER").isTruthy || !(chosen overrides env rpc "password" "PASSWORD").isTruthy
    then .error (.config .noCredentials)
  else .ok ()

theorem checkCaller_eq_ok_iff :
    checkCaller overrides env rpc = .ok () ↔
      (chosen overrides env rpc "user" "USER").isTruthy = true ∧
        (chosen overrides env rpc "password" "PASSWORD").isTruthy = true := by
  rw [checkCaller]
  cases (chosen overrides env rpc "user" "USER").isTruthy <;>
    cases (chosen overrides env rpc "password" "PASSWORD").isTruthy <;> simp

/-- The ports and the endpoint that are found on the way to a connection. -/
structure Pieces where
  environmentPort : Option Int
  parts : Parts
  overridePort : Option Int
  filePort : Option Int

def Pieces.connection (pieces : Pieces) (overrides : Value) (env : Environment) (rpc : Value) : Connection where
  user := chosen overrides env rpc "user" "USER"
  password := chosen overrides env rpc "password" "PASSWORD"
  host := first [overrides.field "host", pieces.parts.host, variableOf env "HOST",
    rpc.field "host", .text defaultHost]
  port := firstSome [pieces.overridePort, pieces.parts.port, pieces.environmentPort, pieces.filePort] defaultPort
  useHttps := firstSome [bool? (overrides.field "use_https"), pieces.parts.useHttps,
    bool? (variableOf env "USE_HTTPS"), bool? (rpc.field "use_https")] false

theorem connection_eq (overrides : Value) (env : Environment) (path : String) (file : Value) :
    Settings.connection overrides env path file = (section? path file >>= fun rpc =>
      port? "environment" (variableOf env "PORT") >>= fun environmentPort =>
        endpoint (chosenEndpoint overrides env rpc) >>= fun parts =>
          checkCaller overrides env rpc >>= fun _ =>
            port? "overrides" (overrides.field "port") >>= fun overridePort =>
              port? (path ++ " rpc.port") (rpc.field "port") >>= fun filePort =>
                .ok (Pieces.connection ⟨environmentPort, parts, overridePort, filePort⟩ overrides env rpc)) := by
  rw [Settings.connection]
  refine bind_congr fun rpc => bind_congr fun environmentPort => bind_congr fun parts => ?_
  dsimp only
  -- the branches of the check for a caller are the outcomes of `checkCaller`
  split
  next h =>
    have hcaller : checkCaller overrides env rpc = .error (.config .noCredentials) := if_pos h
    rw [hcaller]
    rfl
  next h =>
    have hcaller : checkCaller overrides env rpc = .ok () := if_neg h
    rw [hcaller]
    rfl

structure Gathered (overrides : Value) (env : Environment) (path : String) (file rpc : Value) (pieces : Pieces) :
    Prop where
  section_eq : section? path file = .ok rpc
  environmentPort_eq : port? "environment" (variableOf env "PORT") = .ok pieces.environmentPort
  parts_eq : endpoint (chosenEndpoint overrides env rpc) = .ok pieces.parts
  caller_eq : checkCaller overrides env rpc = .ok ()
  overridePort_eq : port? "overrides" (overrides.field "port") = .ok pieces.overridePort
  filePort_eq : port? (path ++ " rpc.port") (rpc.field "port") = .ok pieces.filePort

theorem connection_eq_ok_iff :
    Settings.connection overrides env path file = .ok c ↔
      ∃ rpc pieces, Gathered overrides env path file rpc pieces ∧ pieces.connection overrides env rpc = c := by
  rw [connection_eq]
  simp only [bind_eq_ok_iff]
  constructor
  · rintro ⟨rpc, hrpc, environmentPort, henv, parts, hparts, ⟨⟩, hcaller, overridePort, hover, filePort, hfile, hc⟩
    exact ⟨rpc, _, ⟨hrpc, henv, hparts, hcaller, hover, hfile⟩, Except.ok.inj hc⟩
  · rintro ⟨rpc, pieces, h, rfl⟩
    exact ⟨rpc, h.section_eq, _, h.environmentPort_eq, _, h.parts_eq, (), h.caller_eq, _, h.overridePort_eq, _,
      h.filePort_eq, rfl⟩

end Settings

theorem Session.connection_of_config {s : Session} {path : Option String} {env : Option Environment}
    {overrides : Value} {name : String} {file : Value} (h : s.config path = .ok (name, file)) :
    s.connection path env overrides = Settings.connection overrides (env.getD s.environment) name file := by
  rw [Session.connection, h]
  rfl

theorem Session.connection_eq_ok_iff {s : Session} {path : Option String} {env : Option Environment}
    {overrides : Value} {c : Connection} :
    s.connection path env overrides = .ok c ↔
      ∃ name file rpc pieces, s.config path = .ok (name, file) ∧
        Settings.Gathered overrides (env.getD s.environment) name file rpc pieces ∧
          pieces.connection overrides (env.getD s.environment) rpc = c := by
  rw [Session.connection, bind_eq_ok_iff]
  simp only [Settings.connection_eq_ok_iff, Prod.exists, exists_and_left]

end PaymentUri
