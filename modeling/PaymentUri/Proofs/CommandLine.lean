import PaymentUri.Command.Run
import PaymentUri.Proofs.Check
import PaymentUri.Proofs.Split

namespace PaymentUri

inductive BuildOption where
  | amount (text : String)
  | label (text : String)
  | message (text : String)
  | param (key value : String)

namespace BuildOption

def name : BuildOption → String
  | amount _ => "--amount"
  | label _ => "--label"
  | message _ => "--message"
  | param _ _ => "--param"

def value : BuildOption → String
  | amount text => text
  | label text => text
  | message text => text
  | param key value => key ++ "=" ++ value

def argument (o : BuildOption) : String := o.name ++ "=" ++ o.value

def given (name : String) (os : List BuildOption) : List String :=
  (os.filter fun o => o.name == name).map value

def params (os : List BuildOption) : List (String × String) :=
  os.filterMap fun
    | param key value => some (key, value)
    | _ => none

theorem given_param (os : List BuildOption) :
    given "--param" os = (params os).map fun e => e.1 ++ "=" ++ e.2 := by
  induction os with
  | nil => rfl
  | cons o os ih =>
      cases o with
      | param key v => exact congrArg _ ih
      | amount | label | message => exact ih

end BuildOption

def isKept (takesDashes : Bool) (value : String) : Bool := !(takesDashes && value == "--")

structure NetworkChoice where
  config : Option String := none
  name : Option String := none

namespace NetworkChoice

def arguments (choice : NetworkChoice) : List String :=
  (choice.config.map ("--config=" ++ ·)).toList ++ (choice.name.map ("--network=" ++ ·)).toList

/-- The configuration path that is given. An empty one is none, and neither are two dashes that are taken out. -/
def path (takesDashes : Bool) (choice : NetworkChoice) : Option String :=
  nonempty (choice.config.filter (isKept takesDashes))

def read (takesDashes : Bool) (choice : NetworkChoice) (c : Command) : Arguments :=
  ⟨choice.config.filter (isKept takesDashes), choice.name.map (Arguments.givenBehind takesDashes), false, c⟩

end NetworkChoice

namespace Arguments

variable {r : Rule} {rules : List Rule} {arg v : String} {t : Taken} {rest : List String}
  {takesDashes : Bool}

theorem cut?_option {name : String} (h : '=' ∉ name.toList) (v : String) :
    Text.cut? '=' (name ++ "=" ++ v).toList = some (name.toList, v.toList) := by
  rw [String.toList_append, String.toList_append, List.append_assoc]
  exact Text.cut?_append_cons h v.toList

theorem find?_option_eq_none (hfree : ∀ q ∈ rules, '=' ∉ q.name.toList) (name v : String) :
    rules.find? (·.name == name ++ "=" ++ v) = none := by
  rw [List.find?_eq_none]
  intro q hq hname
  have hmem := hfree q hq
  rw [beq_iff_eq.mp hname] at hmem
  simp at hmem

theorem named?_option (hfree : '=' ∉ r.name.toList) (v : String) :
    named? rules (r.name ++ "=" ++ v) = (rules.find? (·.name == r.name)).map (·, v) := by
  rw [named?, cut?_option hfree]
  simp only [Option.bind_eq_bind, Option.bind_some, String.ofList_toList]
  cases rules.find? (·.name == r.name) <;> rfl

theorem startsWith_option {start : String} (h : startsWith start r.name = true) (v : String) :
    startsWith start (r.name ++ "=" ++ v) = true := by
  rw [startsWith, List.isPrefixOf_iff_prefix] at h
  rw [startsWith, List.isPrefixOf_iff_prefix, String.toList_append, String.toList_append, List.append_assoc]
  exact h.trans (List.prefix_append _ _)

theorem option_ne_dashes (name v : String) : name ++ "=" ++ v ≠ "-" ∧ name ++ "=" ++ v ≠ "--" := by
  have hmem : '=' ∈ (name ++ "=" ++ v).toList := by simp
  constructor <;>
    · intro h
      rw [h] at hmem
      revert hmem
      decide

theorem kind_option (hfree : ∀ q ∈ rules, '=' ∉ q.name.toList) (hr : r ∈ rules)
    (hfind : rules.find? (·.name == r.name) = some r) (hdash : startsWith "-" r.name = true) (v : String) :
    kind rules (r.name ++ "=" ++ v) = .option r (some v) := by
  rw [kind, startsWith_option hdash, beq_false_of_ne (option_ne_dashes r.name v).1,
    if_neg (by decide), find?_option_eq_none hfree, named?_option (hfree r hr), hfind]
  rfl

theorem kind_of_not_dash (h : startsWith "-" arg = false) : kind rules arg = .word := by
  rw [kind, h]
  rfl

theorem ne_dashes_of_not_dash (h : startsWith "-" arg = false) : arg ≠ "--" := by
  rintro rfl
  exact absurd h (by decide)

theorem candidates_foreign (hown : '=' ∉ r.name.toList) (hdashes : startsWith "--" r.name = true)
    (hforeign : ∀ q ∈ rules, startsWith r.name q.name = false) (v : String) :
    candidates rules (r.name ++ "=" ++ v) = [] := by
  rw [candidates, if_pos (startsWith_option hdashes v), cut?_option hown]
  dsimp only
  rw [List.map_eq_nil_iff, List.filter_eq_nil_iff, String.ofList_toList]
  intro q hq
  rw [hforeign q hq]
  exact Bool.false_ne_true

theorem kind_foreign_ne_ambiguous (hfree : ∀ q ∈ rules, '=' ∉ q.name.toList) (hown : '=' ∉ r.name.toList)
    (hdashes : startsWith "--" r.name = true) (hforeign : ∀ q ∈ rules, startsWith r.name q.name = false)
    (v : String) : kind rules (r.name ++ "=" ++ v) ≠ .ambiguous := by
  have hfind : rules.find? (·.name == r.name) = none := by
    rw [List.find?_eq_none]
    intro q hq hname
    have hstart := hforeign q hq
    rw [beq_iff_eq.mp hname, startsWith, ← Bool.not_eq_true, List.isPrefixOf_iff_prefix] at hstart
    exact hstart (List.prefix_refl _)
  rw [kind, find?_option_eq_none hfree, named?_option hown, hfind, candidates_foreign hown hdashes hforeign]
  split
  next => nofun
  next =>
    dsimp only [Option.map_none]
    split <;> nofun

def buildRules : List Rule :=
  helpRules ++ [option "--amount", option "--label", option "--message", option "--param"]

def taken (takesDashes : Bool) (o : BuildOption) : Rule × Given := (option o.name, givenBehind takesDashes o.value)

theorem name_mem (o : BuildOption) : o.name ∈ ["--amount", "--label", "--message", "--param"] := by
  cases o <;> simp [BuildOption.name]

theorem kind_build (o : BuildOption) :
    kind buildRules o.argument = .option (option o.name) (some o.value) := by
  have hnames : ∀ name ∈ ["--amount", "--label", "--message", "--param"], option name ∈ buildRules ∧
      buildRules.find? (·.name == name) = some (option name) ∧ startsWith "-" name = true := by decide
  obtain ⟨hmem, hfind, hdash⟩ := hnames o.name (name_mem o)
  exact kind_option (by decide) hmem hfind hdash o.value

theorem kind_global_ne_ambiguous (o : BuildOption) : kind globalRules o.argument ≠ .ambiguous := by
  have hnames : ∀ name ∈ ["--amount", "--label", "--message", "--param"], '=' ∉ name.toList ∧
      startsWith "--" name = true ∧ ∀ q ∈ globalRules, startsWith name q.name = false := by decide
  obtain ⟨hfree, hdashes, hforeign⟩ := hnames o.name (name_mem o)
  exact kind_foreign_ne_ambiguous (r := option o.name) (by decide) hfree hdashes hforeign o.value

theorem argument_ne_dashes (o : BuildOption) : o.argument ≠ "--" := (option_ne_dashes o.name o.value).2

theorem takeUntil_option {stops : Bool} {name : String} (hdashes : arg ≠ "--")
    (hkind : kind rules arg = .option (option name) (some v)) :
    takeUntil takesDashes stops rules t (arg :: rest) =
      takeUntil takesDashes stops rules (t.add (option name) (givenBehind takesDashes v)) rest := by
  rw [takeUntil, beq_false_of_ne hdashes, if_neg Bool.false_ne_true, hkind]
  rfl

theorem takeUntil_options (takesDashes : Bool) (os : List BuildOption) (t : Taken) (rest : List String) :
    takeUntil takesDashes false buildRules t (os.map BuildOption.argument ++ rest) =
      takeUntil takesDashes false buildRules { t with options := t.options ++ os.map (taken takesDashes) } rest := by
  induction os generalizing t with
  | nil => rw [List.map_nil, List.map_nil, List.append_nil, List.nil_append]
  | cons o os ih =>
      rw [List.map_cons, List.cons_append,
        takeUntil_option (argument_ne_dashes o) (kind_build o), ih]
      simp [Taken.add, taken]

theorem takeUntil_word (hdashes : arg ≠ "--") (hkind : kind rules arg = .word) (hword : t.word = none)
    (hrest : rest ≠ ["--"]) :
    takeUntil takesDashes false rules t (arg :: rest) =
      takeUntil takesDashes false rules { t with word := some arg } rest := by
  rw [takeUntil, beq_false_of_ne hdashes, if_neg Bool.false_ne_true, hkind]
  -- two dashes at the end would be swallowed with the word
  simp [hword, hrest]

theorem options_ne_dashes (os : List BuildOption) : os.map BuildOption.argument ≠ ["--"] := by
  intro h
  obtain ⟨o, -, ho⟩ := List.mem_map.mp (h ▸ List.mem_singleton.mpr rfl : "--" ∈ os.map BuildOption.argument)
  exact argument_ne_dashes o ho

theorem takeUntil_build (before behind : List BuildOption) (hdash : startsWith "-" arg = false) :
    takeUntil takesDashes false buildRules {}
        (before.map BuildOption.argument ++ arg :: behind.map BuildOption.argument) =
      .ok (⟨(before ++ behind).map (taken takesDashes), some arg, false⟩, []) := by
  have hbehind := takeUntil_options takesDashes behind ⟨before.map (taken takesDashes), some arg, false⟩ []
  rw [List.append_nil] at hbehind
  rw [takeUntil_options,
    takeUntil_word (ne_dashes_of_not_dash hdash) (kind_of_not_dash hdash) rfl (options_ne_dashes behind)]
  refine hbehind.trans ?_
  rw [takeUntil, List.map_append]

theorem valuesOf_taken (takesDashes : Bool) (os : List BuildOption) (name : String) :
    valuesOf (os.map (taken takesDashes)) name = (BuildOption.given name os).map (givenBehind takesDashes) := by
  rw [valuesOf, List.filter_map, List.map_map, BuildOption.given, List.map_map]
  rfl

theorem givenBehind_of_kept (h : isKept takesDashes v = true) : givenBehind takesDashes v = .text v := by
  rw [isKept, Bool.not_eq_true'] at h
  rw [givenBehind, h]
  rfl

theorem isKept_of_ne (h : v ≠ "--") : isKept takesDashes v = true := by
  rw [isKept, beq_false_of_ne h, Bool.and_false]
  rfl

theorem text?_givenBehind (takesDashes : Bool) (v : String) :
    (givenBehind takesDashes v).text? = (some v).filter (isKept takesDashes) := by
  rw [Option.filter_some, givenBehind, isKept]
  cases takesDashes && v == "--" <;> rfl

def lastGiven (takesDashes : Bool) (os : List BuildOption) (name : String) : Option String :=
  (BuildOption.given name os).getLast?.filter (isKept takesDashes)

theorem lastText?_taken (takesDashes : Bool) (os : List BuildOption) (name : String) :
    lastText? (os.map (taken takesDashes)) name = lastGiven takesDashes os name := by
  rw [lastText?, last?, valuesOf_taken, List.getLast?_map, lastGiven]
  cases (BuildOption.given name os).getLast? with
  | none => rfl
  | some v => exact text?_givenBehind takesDashes v

theorem last?_taken (takesDashes : Bool) (os : List BuildOption) (name : String) :
    last? (os.map (taken takesDashes)) name = (BuildOption.given name os).getLast?.map (givenBehind takesDashes) := by
  rw [last?, valuesOf_taken, List.getLast?_map]

theorem readNamed_build (before behind : List BuildOption) (hdash : startsWith "-" arg = false) :
    readNamed takesDashes "build" (before.map BuildOption.argument ++ arg :: behind.map BuildOption.argument) =
      .ok (.build arg ((BuildOption.given "--amount" (before ++ behind)).getLast?.map (givenBehind takesDashes))
        (lastGiven takesDashes (before ++ behind) "--label") (lastGiven takesDashes (before ++ behind) "--message")
        ((BuildOption.given "--param" (before ++ behind)).map (givenBehind takesDashes))) := by
  have hcommand : readCommand takesDashes [option "--amount", option "--label", option "--message", option "--param"]
      (before.map BuildOption.argument ++ arg :: behind.map BuildOption.argument) =
        .ok (arg, (before ++ behind).map (taken takesDashes)) := by
    rw [readCommand]
    change takeUntil takesDashes false buildRules {} _ >>= _ = _
    rw [takeUntil_build before behind hdash]
    rfl
  rw [readNamed, hcommand]
  change Except.ok _ = _
  rw [last?_taken, lastText?_taken, lastText?_taken, valuesOf_taken]

theorem readNamed_parse (hdash : startsWith "-" arg = false) :
    readNamed takesDashes "parse" [arg] = .ok (.parse arg false) := by
  rw [readNamed, readCommand,
    takeUntil_word (ne_dashes_of_not_dash hdash) (kind_of_not_dash hdash) rfl (by simp), takeUntil]
  rfl

theorem kind_global {name : String} (hname : name ∈ ["--config", "--network"]) (v : String) :
    kind globalRules (name ++ "=" ++ v) = .option (option name) (some v) := by
  have hnames : ∀ name ∈ ["--config", "--network"], option name ∈ globalRules ∧
      globalRules.find? (·.name == name) = some (option name) ∧ startsWith "-" name = true := by decide
  obtain ⟨hmem, hfind, hdash⟩ := hnames name hname
  exact kind_option (r := option name) (by decide) hmem hfind hdash v

theorem takeUntil_optional {stops : Bool} {name : String} {given : Option String}
    (hkind : ∀ v, kind rules (name ++ "=" ++ v) = .option (option name) (some v)) :
    takeUntil takesDashes stops rules t ((given.map (name ++ "=" ++ ·)).toList ++ rest) =
      takeUntil takesDashes stops rules
        { t with options := t.options ++ (given.map fun v => (option name, givenBehind takesDashes v)).toList } rest := by
  cases given with
  | none =>
      rw [Option.map_none, Option.map_none, Option.toList_none, Option.toList_none, List.nil_append,
        List.append_nil]
  | some v => exact takeUntil_option (option_ne_dashes name v).2 (hkind v)

theorem takeUntil_global {name : String} (hdash : startsWith "-" name = false) (choice : NetworkChoice)
    (rest : List String) :
    takeUntil takesDashes true globalRules {} (choice.arguments ++ name :: rest) =
      .ok (⟨(choice.config.map fun v => (option "--config", givenBehind takesDashes v)).toList ++
        (choice.name.map fun v => (option "--network", givenBehind takesDashes v)).toList, none, false⟩,
        name :: rest) := by
  have hstop : ∀ t, takeUntil takesDashes true globalRules t (name :: rest) = .ok (t, name :: rest) := by
    intro t
    rw [takeUntil, beq_false_of_ne (ne_dashes_of_not_dash hdash), if_neg Bool.false_ne_true,
      kind_of_not_dash hdash]
    rfl
  rw [NetworkChoice.arguments, List.append_assoc]
  refine (takeUntil_optional (kind_global (by decide : "--config" ∈ _))).trans ?_
  refine (takeUntil_optional (kind_global (by decide : "--network" ∈ _))).trans ?_
  rw [hstop, List.nil_append]

theorem not_ambiguous_choice (choice : NetworkChoice) :
    ∀ arg ∈ choice.arguments, kind globalRules arg ≠ .ambiguous := by
  have hgiven : ∀ {name : String} {given : Option String}, name ∈ ["--config", "--network"] →
      ∀ arg ∈ (given.map (name ++ "=" ++ ·)).toList, kind globalRules arg ≠ .ambiguous := by
    intro name given hname arg harg
    obtain ⟨v, -, rfl⟩ := Option.map_eq_some_iff.mp (Option.mem_toList.mp harg)
    rw [kind_global hname]
    nofun
  rw [NetworkChoice.arguments, List.forall_mem_append]
  exact ⟨hgiven (by decide : "--config" ∈ _), hgiven (by decide : "--network" ∈ _)⟩

theorem read_of_readNamed {name : String} {c : Command} (hdash : startsWith "-" name = false)
    (choice : NetworkChoice) (hrest : ∀ arg ∈ rest, kind globalRules arg ≠ .ambiguous)
    (hnamed : readNamed takesDashes name rest = .ok c) :
    read takesDashes (choice.arguments ++ name :: rest) = .ok (choice.read takesDashes c) := by
  have hclear : ¬((choice.arguments ++ name :: rest).takeWhile (· != "--")).any
      (fun arg => kind globalRules arg == .ambiguous) = true := by
    rw [List.any_eq_true]
    rintro ⟨arg, harg, hambiguous⟩
    -- the scan takes the command's own options for abbreviations of global ones
    have hall : ∀ arg ∈ choice.arguments ++ name :: rest, kind globalRules arg ≠ .ambiguous := by
      rw [List.forall_mem_append, List.forall_mem_cons, kind_of_not_dash hdash]
      exact ⟨not_ambiguous_choice choice, nofun, hrest⟩
    exact hall arg (List.takeWhile_subset _ harg) (beq_iff_eq.mp hambiguous)
  rw [read, if_neg hclear, readAll, takeUntil_global hdash]
  change (readNamed takesDashes name rest >>= _) = _
  rw [hnamed, NetworkChoice.read]
  obtain ⟨config, network⟩ := choice
  cases config with
  | none => cases network <;> rfl
  | some path => rw [← text?_givenBehind takesDashes path]; cases network <;> rfl

theorem read_build (before behind : List BuildOption) (choice : NetworkChoice)
    (hdash : startsWith "-" arg = false) :
    read takesDashes (choice.arguments ++ "build" ::
        (before.map BuildOption.argument ++ arg :: behind.map BuildOption.argument)) =
      .ok (choice.read takesDashes
        (.build arg ((BuildOption.given "--amount" (before ++ behind)).getLast?.map (givenBehind takesDashes))
          (lastGiven takesDashes (before ++ behind) "--label") (lastGiven takesDashes (before ++ behind) "--message")
          ((BuildOption.given "--param" (before ++ behind)).map (givenBehind takesDashes)))) := by
  have hoptions : ∀ os : List BuildOption, ∀ arg ∈ os.map BuildOption.argument,
      kind globalRules arg ≠ .ambiguous := by
    intro os arg harg
    obtain ⟨o, -, rfl⟩ := List.mem_map.mp harg
    exact kind_global_ne_ambiguous o
  refine read_of_readNamed (by decide) choice ?_ (readNamed_build before behind hdash)
  rw [List.forall_mem_append, List.forall_mem_cons, kind_of_not_dash hdash]
  exact ⟨hoptions before, nofun, hoptions behind⟩

theorem read_parse (choice : NetworkChoice) (hdash : startsWith "-" arg = false) :
    read takesDashes (choice.arguments ++ ["parse", arg]) = .ok (choice.read takesDashes (.parse arg false)) := by
  refine read_of_readNamed (by decide) choice ?_ (readNamed_parse hdash)
  rw [List.forall_mem_singleton, kind_of_not_dash hdash]
  nofun

end Arguments

end PaymentUri
