import PaymentUri.Proofs.ConfigFaults
import PaymentUri.Proofs.Run

namespace PaymentUri

variable {s : Session} {given : Option Given} {command : Command} {network : Network} {out : Output}
  {params : List Given} {crash : Crash}

/-- A result, a rejected URI or a message. Each is printed as a whole, and nothing beside it. -/
inductive Ending where
  | result (text : String)
  | rejected (text : String)
  | told (message : String)

def Ending.output : Ending → Output
  | result text => { exit := 0, stdout := text ++ "\n" }
  | rejected text => { exit := 1, stdout := text ++ "\n" }
  | told message => { exit := 1, stderr := "error: " ++ message ++ "\n" }

theorem Ending.output_injective : Function.Injective output := by
  rintro (text | text | text) (text' | text' | text') h <;> simp_all [output]

/-- What is found is no file, or a file without a value that is not malformed either, and nothing is told of it. -/
def Found.Crashes (crash : Crash) : Found → Prop
  | .nothing | .garbled _ => False
  | .directory => crash = .directory
  | .tooLong => crash = .longPath
  | .file text =>
      ∃ fault, Yaml.read text = .error fault ∧ fault ≠ .malformed ∧ fault.message? = none ∧ crash = .yaml fault

theorem Settings.readFile_crashes_iff {path : String} {required : Bool} {found : Found} :
    (∃ fault, readFile path required found = .error fault ∧ fault.stop = .crash crash) ↔ found.Crashes crash := by
  cases found with
  | nothing => cases required <;> simp [readFile, Found.Crashes, SettingsFault.stop]
  | directory | tooLong | garbled => simp [readFile, Found.Crashes, SettingsFault.stop, eq_comm]
  | file text =>
      rw [readFile, Found.Crashes]
      split
      next hread => simp [hread, SettingsFault.stop]
      next fault hne hread =>
        have hbad : fault ≠ .malformed := hne
        simp only [hread, Except.error.injEq, exists_eq_left', SettingsFault.stop, ne_eq, hbad, not_false_eq_true,
          true_and]
        cases fault.message? <;> simp [eq_comm]
      next v hread =>
        rw [hread]
        refine iff_of_false ?_ (by simp)
        split
        next => simp
        next =>
          split
          next => simp
          next => simp [SettingsFault.stop]

theorem Session.exists_configPath_none (s : Session) : ∃ place required, s.configPath none = .ok (place, required) := by
  rw [configPath.eq_def]
  cases s.remembered with
  | none => exact ⟨_, _, rfl⟩
  | some path => exact ⟨_, _, rfl⟩

namespace Command

def reading (s : Session) (network : Network) (uri : String) (nodeCheck : Bool) :
    Report Stop (Report Rejection PaymentRequest) :=
  if nodeCheck then parseChecked s network uri else pure (parseUri network uri)

def loaded (s : Session) (given : Option Given) : Except SettingsFault Network :=
  s.network none none (networkName given)

/-- What a command answers when everything that it needs is there. -/
inductive Answers (s : Session) (given : Option Given) : Command → Ending → Prop
  | parsed {network uri nodeCheck r request} (hnetwork : loaded s given = .ok network)
      (hread : (reading s network uri nodeCheck).outcome = .ok r) (haccepted : r.outcome = .ok request) :
      Answers s given (.parse uri nodeCheck) (.result (Json.pretty false 0 request.view))
  | rejected {network uri nodeCheck r rejection} (hnetwork : loaded s given = .ok network)
      (hread : (reading s network uri nodeCheck).outcome = .ok r) (hrejected : r.outcome = .error rejection) :
      Answers s given (.parse uri nodeCheck) (.rejected (Json.pretty true 0 rejection.view))
  | built {network address amount? label message params units extras uri}
      (hnetwork : loaded s given = .ok network) (hamount : amount?.mapM amount = .ok units)
      (hparams : params.mapM param = .ok extras)
      (huri : buildUri (.text address) units label message (some network.scheme) (ofEntries extras) = .ok uri) :
      Answers s given (.build address amount? label message params) (.result uri)
  | formatted {units n} (style : Style) (hunits : Text.integer? units = some n) :
      Answers s given (.format units style) (.result (match style with
        | .friendly => Amount.friendly n
        | .plain => Amount.plain n))
  | converted {text n} (hamount : Amount.parse text = .ok n) : Answers s given (.toUnits text) (.result (toString n))

theorem runParse_eq (s : Session) (network : Network) (uri : String) (nodeCheck : Bool) :
    runParse s network uri nodeCheck =
      reading s network uri nodeCheck >>= fun r => ⟨.ok (parseOutput r.outcome), r.events⟩ := by
  cases nodeCheck <;> rfl

theorem runBuild_eq_ok_iff {address : String} {amount? : Option Given} {label message : Option String} :
    runBuild network address amount? label message params = .ok out ↔
      ∃ units extras uri, amount?.mapM amount = .ok units ∧ params.mapM param = .ok extras ∧
        buildUri (.text address) units label message (some network.scheme) (ofEntries extras) = .ok uri ∧
          (Ending.result uri).output = out := by
  rw [runBuild]
  simp only [bind_eq_ok_iff, mapError_eq_ok_iff]
  constructor
  · rintro ⟨units, hunits, extras, hextras, uri, huri, hout⟩
    exact ⟨units, extras, uri, hunits, hextras, huri, Except.ok.inj hout⟩
  · rintro ⟨units, extras, uri, hunits, hextras, huri, rfl⟩
    exact ⟨units, hunits, extras, hextras, uri, huri, rfl⟩

theorem outcome_run_parse_eq_ok_iff {uri : String} {nodeCheck : Bool} :
    (run s given (.parse uri nodeCheck)).outcome = .ok out ↔
      ∃ network r, loaded s given = .ok network ∧ (reading s network uri nodeCheck).outcome = .ok r ∧
        parseOutput r.outcome = out := by
  rw [run, Report.outcome_bind, bind_eq_ok_iff]
  constructor
  · rintro ⟨network, hnetwork, hrun⟩
    rw [runParse_eq, Report.outcome_bind, bind_eq_ok_iff] at hrun
    obtain ⟨r, hread, hout⟩ := hrun
    exact ⟨network, r, eq_ok_of_mapError hnetwork, hread, Except.ok.inj hout⟩
  · rintro ⟨network, r, hnetwork, hread, rfl⟩
    refine ⟨network, mapError_eq_ok_iff.mpr hnetwork, ?_⟩
    rw [runParse_eq, Report.outcome_bind, hread]
    rfl

theorem outcome_run_build_eq_ok_iff {address : String} {amount? : Option Given} {label message : Option String} :
    (run s given (.build address amount? label message params)).outcome = .ok out ↔
      ∃ network, loaded s given = .ok network ∧
        runBuild network address amount? label message params = .ok out := by
  rw [run, Report.outcome_bind, bind_eq_ok_iff]
  exact exists_congr fun network => and_congr_left' mapError_eq_ok_iff

theorem outcome_run_eq_ok_iff :
    (run s given command).outcome = .ok out ↔ ∃ ending, Answers s given command ending ∧ ending.output = out := by
  constructor
  · intro h
    cases command with
    | parse uri nodeCheck =>
        obtain ⟨network, r, hnetwork, hread, rfl⟩ := outcome_run_parse_eq_ok_iff.mp h
        cases hr : r.outcome with
        | ok request => exact ⟨_, .parsed hnetwork hread hr, rfl⟩
        | error rejection => exact ⟨_, .rejected hnetwork hread hr, rfl⟩
    | build address amount? label message params =>
        obtain ⟨network, hnetwork, hrun⟩ := outcome_run_build_eq_ok_iff.mp h
        obtain ⟨units, extras, uri, hamount, hparams, huri, rfl⟩ := runBuild_eq_ok_iff.mp hrun
        exact ⟨_, .built hnetwork hamount hparams huri, rfl⟩
    | format units style =>
        change runFormat units style = .ok out at h
        rw [runFormat] at h
        split at h
        next => cases h
        next n hunits =>
          cases h
          exact ⟨_, .formatted style hunits, rfl⟩
    | toUnits text =>
        change runToUnits text = .ok out at h
        rw [runToUnits] at h
        split at h
        next => cases h
        next n hamount =>
          cases h
          exact ⟨_, .converted hamount, rfl⟩
  · rintro ⟨ending, hanswer, rfl⟩
    cases hanswer with
    | parsed hnetwork hread haccepted =>
        refine outcome_run_parse_eq_ok_iff.mpr ⟨_, _, hnetwork, hread, ?_⟩
        rw [haccepted]
        rfl
    | rejected hnetwork hread hrejected =>
        refine outcome_run_parse_eq_ok_iff.mpr ⟨_, _, hnetwork, hread, ?_⟩
        rw [hrejected]
        rfl
    | built hnetwork hamount hparams huri =>
        exact outcome_run_build_eq_ok_iff.mpr
          ⟨_, hnetwork, runBuild_eq_ok_iff.mpr ⟨_, _, _, hamount, hparams, huri, rfl⟩⟩
    | @formatted units n style hunits =>
        change runFormat units style = _
        rw [runFormat, hunits]
        rfl
    | @converted text n hamount =>
        change runToUnits text = _
        rw [runToUnits, hamount]
        rfl

theorem outcome_recover_eq_ok_iff (r : Report Stop Output) :
    (recover r).outcome = .ok out ↔
      r.outcome = .ok out ∨ ∃ message, r.outcome = .error (.told message) ∧ (Ending.told message).output = out := by
  rw [recover]
  split
  next printed h => simp [h]
  next message h => simp [h, Ending.output]
  next c h => simp [h]

theorem outcome_recover_eq_error_iff (r : Report Stop Output) :
    (recover r).outcome = .error crash ↔ r.outcome = .error (.crash crash) := by
  rw [recover]
  split
  next printed h => simp [h]
  next message h => simp [h]
  next c h => simp [h]

/-- Behind parameters that are good stands one without a text. -/
def MeetsBare (params : List Given) : Prop :=
  ∃ good rest, params = good ++ .nothing :: rest ∧ ∀ p ∈ good, Passes (param p)

theorem param_eq_crash_iff {p : Given} : param p = .error (.crash crash) ↔ crash = .notText ∧ p = .nothing := by
  cases p with
  | nothing => simp [param, eq_comm]
  | text raw =>
      rw [param]
      refine iff_of_false ?_ (by simp)
      split <;> simp

theorem meetsBare_cons {p : Given} :
    MeetsBare (p :: params) ↔ p = .nothing ∨ Passes (param p) ∧ MeetsBare params := by
  constructor
  · rintro ⟨good, rest, hparams, hgood⟩
    cases good with
    | nil =>
        cases hparams
        exact .inl rfl
    | cons q good =>
        cases hparams
        obtain ⟨hp, hgood⟩ := List.forall_mem_cons.mp hgood
        exact .inr ⟨hp, good, rest, rfl, hgood⟩
  · rintro (rfl | ⟨hp, good, rest, rfl, hgood⟩)
    · exact ⟨[], params, rfl, nofun⟩
    · exact ⟨p :: good, rest, rfl, List.forall_mem_cons.mpr ⟨hp, hgood⟩⟩

theorem mapM_param_eq_crash_iff :
    params.mapM param = .error (.crash crash) ↔ crash = .notText ∧ MeetsBare params := by
  induction params with
  | nil =>
      refine iff_of_false (by simp [pure, Except.pure]) ?_
      rintro ⟨-, good, rest, h, -⟩
      cases good <;> cases h
  | cons p params ih =>
      rw [List.mapM_cons, bind_eq_error_iff, param_eq_crash_iff, meetsBare_cons, and_or_left, Passes]
      refine or_congr_right ?_
      simp only [bind_eq_error_iff, ih]
      constructor
      · rintro ⟨entry, hp, ⟨hcrash, hrest⟩ | ⟨_, -, h⟩⟩
        · exact ⟨hcrash, ⟨entry, hp⟩, hrest⟩
        · cases h
      · rintro ⟨hcrash, ⟨entry, hp⟩, hrest⟩
        exact ⟨entry, hp, .inl ⟨hcrash, hrest⟩⟩

theorem mapError_told_ne_crash {ε α : Type} (message : ε → String) (x : Except ε α) :
    x.mapError (fun e => Stop.told (message e)) ≠ .error (.crash crash) := by
  rw [Ne, mapError_eq_error_iff]
  rintro ⟨e, -, h⟩
  cases h

theorem runBuild_eq_crash_iff {address : String} {amount? : Option Given} {label message : Option String} :
    runBuild network address amount? label message params = .error (.crash crash) ↔
      crash = .notText ∧ Passes (amount?.mapM amount) ∧ MeetsBare params := by
  rw [runBuild, Passes]
  simp only [bind_eq_error_iff, mapError_told_ne_crash, mapError_eq_ok_iff, mapM_param_eq_crash_iff, false_or]
  constructor
  · rintro ⟨units, hunits, ⟨hcrash, hbare⟩ | ⟨_, -, _, -, h⟩⟩
    · exact ⟨hcrash, ⟨units, hunits⟩, hbare⟩
    · cases h
  · rintro ⟨hcrash, ⟨units, hunits⟩, hbare⟩
    exact ⟨units, hunits, .inl ⟨hcrash, hbare⟩⟩

theorem config_crashes_iff : (∃ fault, s.config none = .error fault ∧ fault.stop = .crash crash) ↔
    s.LeadsTo (Found.Crashes crash) none := by
  obtain ⟨place, required, hplace⟩ := s.exists_configPath_none
  rw [Session.config_of_configPath hplace]
  constructor
  · rintro ⟨fault, hfault, hcrash⟩
    rcases bind_eq_error_iff.mp hfault with hfault | ⟨file, -, h⟩
    · exact ⟨place, required, hplace, Settings.readFile_crashes_iff.mp ⟨fault, hfault, hcrash⟩⟩
    · cases h
  · rintro ⟨place', required', hplace', hfound⟩
    cases hplace.symm.trans hplace'
    obtain ⟨fault, hfault, hcrash⟩ := Settings.readFile_crashes_iff.mpr hfound
    exact ⟨fault, bind_eq_error_iff.mpr (.inl hfault), hcrash⟩

theorem loaded_crashes_iff :
    (loaded s given).mapError SettingsFault.stop = .error (.crash crash) ↔
      s.LeadsTo (Found.Crashes crash) none := by
  rw [← config_crashes_iff, mapError_eq_error_iff]
  refine exists_congr fun fault => and_congr_left fun hcrash => ?_
  rw [loaded, Session.network, bind_eq_error_iff]
  refine or_iff_left ?_
  rintro ⟨file, -, hfault⟩
  have htold : fault.stop.IsTold := (Settings.failsOnly_network _ _ _ _ fault hfault).stop
  rw [hcrash] at htold
  exact htold

def NeedsNetwork : Command → Prop
  | .parse .. | .build .. => True
  | .format .. | .toUnits _ => False

/-- A command gets to a parameter without a text. -/
def Stumbles (s : Session) (given : Option Given) : Command → Prop
  | .build _ amount? _ _ params => Passes (loaded s given) ∧ Passes (amount?.mapM amount) ∧ MeetsBare params
  | _ => False

theorem outcome_run_eq_crash_iff (hoffline : ∀ uri, command ≠ .parse uri true) :
    (run s given command).outcome = .error (.crash crash) ↔
      NeedsNetwork command ∧ s.LeadsTo (Found.Crashes crash) none ∨
        crash = .notText ∧ Stumbles s given command := by
  cases command with
  | parse uri nodeCheck =>
      cases nodeCheck with
      | true => exact absurd rfl (hoffline uri)
      | false =>
          rw [run, Report.outcome_bind, bind_eq_error_iff]
          constructor
          · rintro (h | ⟨network, -, h⟩)
            · exact .inl ⟨trivial, loaded_crashes_iff.mp h⟩
            · cases h
          · rintro (⟨-, h⟩ | ⟨-, h⟩)
            · exact .inl (loaded_crashes_iff.mpr h)
            · exact h.elim
  | build address amount? label message params =>
      rw [run, Report.outcome_bind, bind_eq_error_iff, Stumbles, Passes]
      simp only [Report.outcome_ofExcept, runBuild_eq_crash_iff, mapError_eq_ok_iff]
      constructor
      · rintro (h | ⟨network, hnetwork, hcrash, hrest⟩)
        · exact .inl ⟨trivial, loaded_crashes_iff.mp h⟩
        · exact .inr ⟨hcrash, ⟨network, hnetwork⟩, hrest⟩
      · rintro (⟨-, h⟩ | ⟨hcrash, ⟨network, hnetwork⟩, hrest⟩)
        · exact .inl (loaded_crashes_iff.mpr h)
        · exact .inr ⟨network, hnetwork, hcrash, hrest⟩
  | format units style =>
      change runFormat units style = _ ↔ _
      rw [runFormat]
      split <;> simp [NeedsNetwork, Stumbles]
  | toUnits text =>
      change runToUnits text = _ ↔ _
      rw [runToUnits]
      split <;> simp [NeedsNetwork, Stumbles]

theorem outcome_recover_eq_output_iff {r : Report Stop Output} {ending : Ending} :
    (recover r).outcome = .ok ending.output ↔
      r.outcome = .ok ending.output ∨ ∃ message, ending = .told message ∧ r.outcome = .error (.told message) := by
  rw [outcome_recover_eq_ok_iff]
  refine or_congr_right (exists_congr fun message => ?_)
  rw [Ending.output_injective.eq_iff, and_comm, eq_comm]

theorem outcome_run_eq_output_iff {ending : Ending} :
    (run s given command).outcome = .ok ending.output ↔ Answers s given command ending := by
  rw [outcome_run_eq_ok_iff]
  simp [Ending.output_injective.eq_iff]

theorem existsUnique_ending {r : Report Stop Output} (h : (recover r).outcome = .ok out)
    (hr : ∀ printed, r.outcome = .ok printed → ∃ ending : Ending, ending.output = printed) :
    ∃! ending : Ending, ending.output = out := by
  refine existsUnique_of_exists_of_unique ?_ fun _ _ hone hother => Ending.output_injective (hone.trans hother.symm)
  rcases (outcome_recover_eq_ok_iff _).mp h with h | ⟨message, -, rfl⟩
  · exact hr out h
  · exact ⟨_, rfl⟩

end Command

/-- A command line that is understood ends in exactly one way, if it ends: with the result of its command, with the
rejection of a URI that is read, or with a message. Without a node it always ends, but for a configuration path below
the home of nobody, a configuration that is no file or has a text without a value that is not malformed either, and a
parameter without a text. -/
theorem runCommandLine_ends_in_one_way (s : Session) (argv : List String) (args : Arguments)
    (hread : Arguments.read s.platform.takesDashes argv = .ok args) :
    (∀ out, (runCommandLine s argv).1.outcome = .ok out → ∃! ending : Ending, ending.output = out) ∧
      (∀ ending : Ending, (runCommandLine s argv).1.outcome = .ok ending.output ↔
        (∃ t, s.enter args = .ok t ∧
          (Command.Answers t args.network args.command ending ∨
            ∃ message, ending = .told message ∧
              (Command.run t args.network args.command).outcome = .error (.told message))) ∨
          ∃ fault message, s.enter args = .error fault ∧ fault.stop = .told message ∧ ending = .told message) ∧
      ((∀ uri, args.command ≠ .parse uri true) →
        ∀ crash, (runCommandLine s argv).1.outcome = .error crash ↔
          s.enter args = .error .unknown ∧ crash = .noHome ∨
            ∃ t, s.enter args = .ok t ∧
              (args.command.NeedsNetwork ∧ t.LeadsTo (Found.Crashes crash) none ∨
                crash = .notText ∧ Command.Stumbles t args.network args.command)) := by
  have hsame : Arguments.read s.platform.takesDashes argv = .ok { args with command := args.command } := hread
  cases henter : s.enter args with
  | error fault =>
      rw [runCommandLine_of_homeless hsame henter]
      refine ⟨fun out hout => ?_, fun ending => ?_, fun _ crash => ?_⟩
      · exact Command.existsUnique_ending hout nofun
      · rw [Command.outcome_recover_eq_output_iff]
        simp [Report.fail, and_comm]
      · rw [Command.outcome_recover_eq_error_iff]
        cases fault <;> simp [HomeFault.stop, Report.fail, eq_comm]
  | ok t =>
      rw [runCommandLine_of_read hsame henter]
      refine ⟨fun out hout => ?_, fun ending => ?_, fun hoffline crash => ?_⟩
      · refine Command.existsUnique_ending hout fun printed hprinted => ?_
        obtain ⟨ending, -, hending⟩ := Command.outcome_run_eq_ok_iff.mp hprinted
        exact ⟨ending, hending⟩
      · rw [Command.outcome_recover_eq_output_iff, Command.outcome_run_eq_output_iff]
        simp
      · rw [Command.outcome_recover_eq_error_iff, Command.outcome_run_eq_crash_iff hoffline]
        simp

theorem runCommandLine_ends_in_one_way_sample :
    (∃ text, (runCommandLine { defaultPath := "default.yaml" } ["parse", "bitcoin:address"]).1.outcome =
        .ok (Ending.rejected text).output) ∧
      ∀ crash, (runCommandLine { defaultPath := "default.yaml" } ["parse", "bitcoin:address"]).1.outcome ≠
        .error crash := by
  obtain ⟨-, hanswers, hcrash⟩ := runCommandLine_ends_in_one_way { defaultPath := "default.yaml" }
    ["parse", "bitcoin:address"] ⟨none, none, false, .parse "bitcoin:address" false⟩ (by decide +kernel)
  have hrejected : ∃ rejection, (parseUri .mainnet "bitcoin:address").outcome = .error rejection := ⟨_, rfl⟩
  obtain ⟨rejection, hrejected⟩ := hrejected
  have hloaded : Command.loaded { defaultPath := "default.yaml" } none = .ok .mainnet := rfl
  have hanswer : Command.Answers { defaultPath := "default.yaml" } none (.parse "bitcoin:address" false)
      (.rejected (Json.pretty true 0 rejection.view)) := .rejected hloaded rfl hrejected
  refine ⟨⟨_, (hanswers _).mpr (.inl ⟨_, rfl, .inl hanswer⟩)⟩, fun crash h => ?_⟩
  have hoffline : ∀ uri, Command.parse "bitcoin:address" false ≠ .parse uri true := fun uri h =>
    Bool.false_ne_true (Command.parse.inj h).2
  rcases (hcrash hoffline crash).mp h with ⟨h, -⟩ | ⟨t, ⟨⟩, ⟨-, place, required, ⟨⟩, hfound⟩ | ⟨-, h⟩⟩
  · cases h
  · exact hfound
  · exact h

/-- A parameter without a text and a configuration path below the home of nobody end a command line in no such way. -/
theorem param_without_text_crashes :
    (runCommandLine { defaultPath := "default.yaml" }
        ["build", "DCxTHiSxiSxTHExSTUFFzzzzzzzzbSG1oo", "--param=--"]).1.outcome = .error .notText ∧
      (runCommandLine { defaultPath := "default.yaml" }
        ["--config", "~nosuchuser/x", "format", "5"]).1.outcome = .error .noHome := by
  decide +kernel

end PaymentUri
