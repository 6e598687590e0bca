import PaymentUri.Command.Run
import PaymentUri.Proofs.Stages

namespace PaymentUri

variable {s t : Session} {argv : List String} {args : Arguments} {network : Network} {out : Output}
  {path : Option String} {env : Option Environment} {override : Value} {fault : HomeFault}

namespace Session

theorem enter_of_none (h : nonempty args.config = none) : s.enter args = .ok (s.heard args) := by
  rw [enter, h]
  rfl

theorem enter_of_some {given : String} (h : nonempty args.config = some given) :
    s.enter args = (expandPath s.home? given).map fun place => { s.heard args with remembered := some place } := by
  rw [enter, h, Option.isSome_some, if_pos rfl, remember, h]
  rfl

theorem enter_eq_ok_iff :
    s.enter args = .ok t ↔
      nonempty args.config = none ∧ s.heard args = t ∨
        ∃ given place, nonempty args.config = some given ∧ expandPath s.home? given = .ok place ∧
          { s.heard args with remembered := some place } = t := by
  cases hconfig : nonempty args.config with
  | none => simp [enter_of_none hconfig]
  | some given =>
      rw [enter_of_some hconfig]
      cases hplace : expandPath s.home? given <;> simp [Except.map, hplace]

theorem enter_eq_error_iff :
    s.enter args = .error fault ↔
      ∃ given, nonempty args.config = some given ∧ expandPath s.home? given = .error fault := by
  cases hconfig : nonempty args.config with
  | none => simp [enter_of_none hconfig]
  | some given =>
      rw [enter_of_some hconfig]
      cases hplace : expandPath s.home? given <;> simp [Except.map, hplace]

/-- But for the path that is remembered, a command runs in the session of its command line. -/
theorem eq_of_enter (h : s.enter args = .ok t) : t = { s.heard args with remembered := t.remembered } := by
  rcases enter_eq_ok_iff.mp h with ⟨-, rfl⟩ | ⟨given, place, -, -, rfl⟩ <;> rfl

theorem replies_of_enter (h : s.enter args = .ok t) : t.replies = s.replies := by
  rw [eq_of_enter h]
  rfl

theorem platform_of_enter (h : s.enter args = .ok t) : t.platform = s.platform := by
  rw [eq_of_enter h]
  rfl

end Session

theorem runCommandLine_of_read {command : Command}
    (h : Arguments.read s.platform.takesDashes argv = .ok { args with command := command })
    (henter : s.enter args = .ok t) :
    runCommandLine s argv =
      (Command.recover (Command.run t args.network command),
        t.afterPosts (Command.recover (Command.run t args.network command)).posts) := by
  have hsame : s.enter { args with command := command } = .ok t := henter
  rw [runCommandLine, h]
  dsimp only
  rw [hsame]

theorem runCommandLine_of_homeless {command : Command}
    (h : Arguments.read s.platform.takesDashes argv = .ok { args with command := command })
    (henter : s.enter args = .error fault) :
    runCommandLine s argv = (Command.recover (.fail fault.stop), s.heard args) := by
  have hsame : s.enter { args with command := command } = .error fault := henter
  rw [runCommandLine, h]
  dsimp only
  rw [hsame]
  rfl

namespace Command

variable {r : Report Stop Output} {given : Option Given}

theorem posts_recover (r : Report Stop Output) : (recover r).posts = r.posts := by
  rw [recover]
  split <;> rfl

theorem outcome_recover_of_ok (h : r.outcome = .ok out) : (recover r).outcome = .ok out := by
  rw [recover, h]

/-- What is told ends with a status of its own, so that a status of zero is the command's. -/
theorem outcome_of_recover (h : (recover r).outcome = .ok out) (hexit : out.exit = 0) : r.outcome = .ok out := by
  rw [recover] at h
  split at h
  next output hr =>
    cases h
    exact hr
  next message _ =>
    cases h
    exact absurd hexit Nat.one_ne_zero
  next => cases h

theorem exists_of_exit_parseOutput {x : Except Rejection PaymentRequest} (h : (parseOutput x).exit = 0) :
    ∃ r, x = .ok r := by
  cases x with
  | ok r => exact ⟨r, rfl⟩
  | error e => exact absurd h Nat.one_ne_zero

theorem outcome_run_parse (hnetwork : s.network none none (networkName given) = .ok network)
    (uri : String) (nodeCheck : Bool) :
    (run s given (.parse uri nodeCheck)).outcome = (runParse s network uri nodeCheck).outcome := by
  rw [run, hnetwork]
  exact Report.outcome_bind _ _

theorem outcome_run_build (hnetwork : s.network none none (networkName given) = .ok network)
    (address : String) (amount : Option Given) (label message : Option String) (params : List Given) :
    (run s given (.build address amount label message params)).outcome =
      runBuild network address amount label message params := by
  rw [run, hnetwork]
  exact Report.outcome_bind _ _

theorem outcome_runParse_offline (uri : String) :
    (runParse s network uri false).outcome = .ok (parseOutput (parseUri network uri).outcome) := rfl

end Command

namespace Settings

variable {override file : Value} {env : Environment} {path : String}

theorem mem_known_of_network (h : Settings.network override env path file = .ok network) :
    network ∈ Network.known := by
  rw [Settings.network] at h
  split at h
  next =>
    cases h
    exact List.mem_cons_self
  next name _ =>
    split at h
    next hname =>
      cases h
      exact List.mem_of_find?_eq_some hname
    next => cases h
  next => cases h

theorem ofName?_of_network_text {name : String} (h : Settings.network (.text name) env path file = .ok network) :
    Network.ofName? name = some network := by
  have hfirst : first [.text name, environmentValue env "DGB_NETWORK", file.field "network"] = .text name := rfl
  rw [Settings.network, hfirst] at h
  dsimp only at h
  split at h
  next hname =>
    cases h
    exact hname
  next => cases h

end Settings

theorem Session.mem_known_of_network {path : Option String} {env : Option Environment} {override : Value}
    (h : s.network path env override = .ok network) : network ∈ Network.known := by
  rw [Session.network, bind_eq_ok_iff] at h
  obtain ⟨⟨path, file⟩, -, hnetwork⟩ := h
  exact Settings.mem_known_of_network hnetwork

theorem Session.ofName?_of_network {path : Option String} {env : Option Environment} {name : String}
    (h : s.network path env (.text name) = .ok network) : Network.ofName? name = some network := by
  rw [Session.network, bind_eq_ok_iff] at h
  obtain ⟨⟨path, file⟩, -, hnetwork⟩ := h
  exact Settings.ofName?_of_network_text hnetwork

theorem Session.network_entered (h : s.enter args = .ok t) (env : Option Environment) (override : Value) :
    t.network none env override = s.network (nonempty args.config) env override := by
  rcases enter_eq_ok_iff.mp h with ⟨hconfig, rfl⟩ | ⟨given, place, hconfig, hplace, rfl⟩
  · rw [hconfig]
    rfl
  · have hpath : s.configPath (some given) = .ok (place, true) := by
      rw [configPath, hplace]
      rfl
    rw [hconfig, Session.network.eq_def s, Session.config.eq_def s, hpath]
    rfl

theorem Session.network_left (h : s.enter args = .ok t) (posts : List Post) (env : Option Environment)
    (override : Value) :
    (t.afterPosts posts).network (nonempty args.config) env override =
      s.network (nonempty args.config) env override := by
  rcases enter_eq_ok_iff.mp h with ⟨hconfig, rfl⟩ | ⟨given, place, hconfig, hplace, rfl⟩ <;>
    rw [hconfig] <;> rfl

theorem Session.exists_enter_of_network (h : s.network (nonempty args.config) env override = .ok network) :
    ∃ t, s.enter args = .ok t := by
  cases henter : s.enter args with
  | ok t => exact ⟨t, rfl⟩
  | error fault =>
      obtain ⟨given, hconfig, hplace⟩ := enter_eq_error_iff.mp henter
      rw [hconfig, Session.network, Session.config, configPath, hplace] at h
      cases h

end PaymentUri
