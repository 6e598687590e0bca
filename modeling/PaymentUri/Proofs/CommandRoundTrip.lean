import PaymentUri.Proofs.CommandLine
import PaymentUri.Proofs.LastEntries
import PaymentUri.Proofs.NetworkAddress
import PaymentUri.Proofs.Run
import PaymentUri.Proofs.TextPayee
import PaymentUri.Proofs.View

namespace PaymentUri

open Arguments (givenBehind givenBehind_of_kept isKept_of_ne lastGiven)
open BuildOption (given params)

variable {s : Session} {network : Network} {a : Address} {amount : Option Int}
  {label message : Option String} {es : List (String × String)} {r : PaymentRequest} {address u : String}
  {choice : NetworkChoice} {before behind : List BuildOption} {c : Command} {takesDashes : Bool}

theorem Command.param_givenBehind {k : String} (hne : k ≠ "") (hfree : '=' ∉ k.toList) (v : String) :
    param (givenBehind takesDashes (k ++ "=" ++ v)) = .ok (k, v) := by
  obtain ⟨c, cs, hk⟩ := List.exists_cons_of_ne_nil (mt String.toList_eq_nil_iff.mp hne)
  rw [givenBehind_of_kept (isKept_of_ne (Arguments.option_ne_dashes k v).2), param, Arguments.cut?_option hfree, hk]
  dsimp only
  rw [← hk, String.ofList_toList, String.ofList_toList]

theorem Command.mapM_param (h : ∀ e ∈ es, e.1 ≠ "" ∧ '=' ∉ e.1.toList) :
    ((es.map fun e => e.1 ++ "=" ++ e.2).map (givenBehind takesDashes)).mapM param = .ok es := by
  induction es with
  | nil => rfl
  | cons e es ih =>
      rw [List.forall_mem_cons] at h
      rw [List.map_cons, List.map_cons, List.mapM_cons, param_givenBehind h.1.1 h.1.2, ih h.2]
      rfl

theorem Command.mapM_amount {given : Option String} (h : given.mapM Amount.parse = .ok amount) :
    (given.map (givenBehind takesDashes)).mapM Command.amount = .ok amount := by
  cases given with
  | none => exact h
  | some v =>
      -- two dashes are taken out of the values, but they are no decimal number either
      have hne : v ≠ "--" := by
        rintro rfl
        cases h
      rw [Option.map_some, givenBehind_of_kept (isKept_of_ne hne)]
      exact h

theorem Amount.lt_of_mapM_parse {given : Option String} {n : Int} (h : given.mapM parse = .ok (some n))
    (hpos : 0 ≤ n) : n < 10 ^ maxUnitDigits := by
  cases given with
  | none => cases h
  | some v =>
      obtain ⟨m, hm, hsome⟩ := bind_eq_ok_iff.mp h
      cases hsome
      rw [← Int.natAbs_of_nonneg hpos]
      exact_mod_cast natAbs_lt_of_parse hm

theorem Command.runBuild_eq_ok {given : Option Given} {params : List Given}
    (hamount : given.mapM Command.amount = .ok amount) (hparams : params.mapM param = .ok es)
    (hbuild : buildUri (.text address) amount label message (some network.scheme) (ofEntries es) = .ok u) :
    runBuild network address given label message params = .ok { exit := 0, stdout := u ++ "\n" } := by
  rw [runBuild, hamount]
  change (params.mapM param >>= _) = _
  rw [hparams]
  change ((buildUri _ _ _ _ _ (ofEntries es)).mapError _ >>= _) = _
  rw [hbuild]
  rfl

theorem not_mem_of_outcome (h : (parseUri network u).outcome = .ok r) : '\n' ∉ u.toList := by
  obtain ⟨_, _, huri, -, -⟩ := outcome_eq_ok_iff.mp h
  intro hmem
  exact absurd (huri.legal.contained _ hmem) (by decide)

theorem startsWith_dash_of_outcome (hknown : network ∈ Network.known)
    (h : (parseUri network u).outcome = .ok r) : Arguments.startsWith "-" u = false := by
  obtain ⟨_, _, huri, -, -⟩ := outcome_eq_ok_iff.mp h
  obtain ⟨slashes, -, query, -, hwritten⟩ := huri.written
  rw [Arguments.startsWith, hwritten, Network.scheme_of_known hknown]
  rfl

theorem Address.startsWith_dash_of_decode (h : Address.decode network address = .ok a) :
    Arguments.startsWith "-" address = false := by
  obtain ⟨version, hash, -, -, hwritten, -⟩ := Address.decode_eq_ok_iff.mp h
  have hmem := Base58.mem_alphabet_of_decodeChecked (Base58.decodeChecked_eq_ok_iff.mpr hwritten)
  rw [← Bool.not_eq_true, Arguments.startsWith, List.isPrefixOf_iff_prefix]
  intro hprefix
  have hdash : '-' ∈ address.toList := hprefix.subset List.mem_cons_self
  exact absurd (hmem '-' hdash) (by decide)

theorem exists_buildUri (label message : Option String) (hknown : network ∈ Network.known)
    (ha : Address.decode network a.text = .ok a)
    (hamount : ∀ n, amount = some n → 0 ≤ n ∧ n < 10 ^ Amount.maxUnitDigits)
    (hnodup : (es.map Prod.fst).Nodup) (hes : ∀ e ∈ es, Writable e) :
    ∃ u, buildUri (.text a.text) amount label message (some network.scheme) es = .ok u ∧
      (asked a amount label message es).Canonical ∧
      (parseUri network u).outcome = .ok (asked a amount label message es) := by
  obtain ⟨hnetwork, -⟩ := Address.eq_of_decode ha
  have hscheme : isUriText network.scheme = true ∧ ':' ∉ network.scheme.toList := by
    rw [Network.scheme_of_known hknown]
    decide
  obtain ⟨u, hwritten⟩ : ∃ u, buildUri (.address a) amount label message none es = .ok u :=
    ⟨_, buildUri_eq_ok_iff.mpr ⟨any_negative_eq_false fun n hn => (hamount n hn).1, hes, rfl⟩⟩
  have hbuild : buildUri (.text a.text) amount label message (some network.scheme) es = .ok u := by
    rw [← hnetwork]
    exact hwritten
  have hc := canonical_asked a (fun n hn => (hamount n hn).2) hnodup hbuild
  have hread := PaymentRequest.parseUri_uriText hc hscheme.1 hscheme.2 ha rfl
  rw [← toUri_mk] at hwritten
  have hu := (PaymentRequest.toUri_of_canonical hc).symm.trans hwritten
  rw [Except.ok.injEq] at hu
  rw [hu] at hread
  exact ⟨u, hbuild, hc, hread⟩

theorem Writable.key_free {e : String × String} (h : Writable e) : e.1 ≠ "" ∧ '=' ∉ e.1.toList := by
  have hwell := Pair.wellFormed_ofEntry h.spelled
  exact ⟨hwell.key_ne, hwell.key_free '=' (by decide)⟩

def buildArguments (choice : NetworkChoice) (before : List BuildOption) (address : String)
    (behind : List BuildOption) : List String :=
  choice.arguments ++
    "build" :: (before.map BuildOption.argument ++ address :: behind.map BuildOption.argument)

/-- A session selects a network for the options in front of a command. -/
def NetworkChoice.Selects (choice : NetworkChoice) (s : Session) (network : Network) : Prop :=
  s.network (choice.path s.platform.takesDashes) none (.ofText? choice.name) = .ok network

namespace NetworkChoice

theorem Selects.mem_known (h : choice.Selects s network) : network ∈ Network.known := Session.mem_known_of_network h

theorem Selects.networkName_eq (h : choice.Selects s network) :
    Command.networkName (choice.name.map (givenBehind takesDashes)) = .ofText? choice.name := by
  obtain ⟨config, name⟩ := choice
  cases name with
  | none => rfl
  | some name =>
      have hne : name ≠ "--" := by
        rintro rfl
        have hfound := Session.ofName?_of_network h
        rw [show Network.ofName? "--" = none from by decide] at hfound
        cases hfound
      rw [Option.map_some, givenBehind_of_kept (isKept_of_ne hne)]
      rfl

theorem Selects.exists_run (h : choice.Selects s network) {argv : List String}
    (hread : Arguments.read s.platform.takesDashes argv = .ok (choice.read s.platform.takesDashes c)) :
    ∃ t given, t.network none none (Command.networkName given) = .ok network ∧
      (runCommandLine s argv).1 = Command.recover (Command.run t given c) ∧
      choice.Selects (runCommandLine s argv).2 network := by
  obtain ⟨t, ht⟩ : ∃ t, s.enter (choice.read s.platform.takesDashes c) = .ok t := Session.exists_enter_of_network h
  have hsame : Arguments.read s.platform.takesDashes argv =
    .ok { choice.read s.platform.takesDashes c with command := c } := hread
  rw [runCommandLine_of_read hsame ht]
  refine ⟨t, _, ?_, rfl, ?_⟩
  · rw [Session.network_entered ht, read, h.networkName_eq]
    exact h
  · change Session.network _ (choice.path t.platform.takesDashes) none _ = _
    rw [Session.platform_of_enter ht]
    exact (Session.network_left ht _ none _).trans h

end NetworkChoice

theorem outcome_parseLine (h : choice.Selects s network) (hread : (parseUri network u).outcome = .ok r) :
    (runCommandLine s (choice.arguments ++ ["parse", u])).1.outcome =
      .ok { exit := 0, stdout := Json.pretty false 0 r.view ++ "\n" } := by
  have hdash := startsWith_dash_of_outcome h.mem_known hread
  obtain ⟨t, given, hnetwork, hrun, -⟩ := h.exists_run (Arguments.read_parse choice hdash)
  rw [hrun]
  refine Command.outcome_recover_of_ok ?_
  rw [Command.outcome_run_parse hnetwork, Command.outcome_runParse_offline, hread]
  rfl

theorem buildLine (h : choice.Selects s network) (hdash : Arguments.startsWith "-" address = false)
    (hamount : (given "--amount" (before ++ behind)).getLast?.mapM Amount.parse = .ok amount)
    (hkeys : ∀ e ∈ params (before ++ behind), e.1 ≠ "" ∧ '=' ∉ e.1.toList)
    (hbuild : buildUri (.text address) amount (lastGiven s.platform.takesDashes (before ++ behind) "--label")
      (lastGiven s.platform.takesDashes (before ++ behind) "--message") (some network.scheme)
      (ofEntries (params (before ++ behind))) = .ok u) :
    (runCommandLine s (buildArguments choice before address behind)).1.outcome =
        .ok { exit := 0, stdout := u ++ "\n" } ∧
      choice.Selects (runCommandLine s (buildArguments choice before address behind)).2 network := by
  obtain ⟨t, given, hnetwork, hrun, hleft⟩ := h.exists_run (Arguments.read_build before behind choice hdash)
  refine ⟨?_, hleft⟩
  rw [buildArguments, hrun]
  refine Command.outcome_recover_of_ok ?_
  rw [Command.outcome_run_build hnetwork]
  refine Command.runBuild_eq_ok (Command.mapM_amount hamount) ?_ hbuild
  rw [BuildOption.given_param]
  exact Command.mapM_param hkeys

/-- What is built on the command line is read there as what was given. Where two dashes are taken out of the values
of options, a label or a message of two dashes counts as none. -/
theorem runCommandLine_build_parse (s : Session) (choice : NetworkChoice) (network : Network) (address : String)
    (a : Address) (before behind : List BuildOption) (amount : Option Int)
    (hnetwork : choice.Selects s network)
    (haddress : Address.decode network address = .ok a)
    (hamount : (given "--amount" (before ++ behind)).getLast?.mapM Amount.parse = .ok amount)
    (hpos : ∀ n, amount = some n → 0 ≤ n)
    (hparams : ∀ e ∈ params (before ++ behind), ∃ t, extraParameter e.1 e.2 = .ok t) :
    ∃ (uri : String) (extras : List (String × String)),
      (runCommandLine s (buildArguments choice before address behind)).1.outcome =
        .ok { exit := 0, stdout := uri ++ "\n" } ∧
      '\n' ∉ uri.toList ∧
      choice.Selects (runCommandLine s (buildArguments choice before address behind)).2 network ∧
      (∀ later : Session, choice.Selects later network →
        ∃ text, (runCommandLine later (choice.arguments ++ ["parse", uri])).1.outcome =
            .ok { exit := 0, stdout := text } ∧
          ∀ maxDepth, 2 ≤ maxDepth → Json.read maxDepth text = .ok (.map
            [(.text "address", .text address),
              (.text "network", .text network.name),
              (.text "amount_units", amount.elim .null .int),
              (.text "amount", amount.elim .null fun n => .text (Amount.plain n)),
              (.text "label",
                .ofText? (nonempty (lastGiven s.platform.takesDashes (before ++ behind) "--label"))),
              (.text "message",
                .ofText? (nonempty (lastGiven s.platform.takesDashes (before ++ behind) "--message"))),
              (.text "extra_parameters", .map (extras.map fun e => (.text e.1, .text e.2)))])) ∧
      extras.map Prod.fst = ((params (before ++ behind)).map Prod.fst).eraseDups ∧
      ∀ key, extras.lookup key = (params (before ++ behind)).reverse.lookup key := by
  have hwritable : ∀ e ∈ params (before ++ behind), Writable e := by
    intro e he
    obtain ⟨t, ht⟩ := hparams e he
    exact (extraParameter_eq_ok_iff.mp ht).1
  have hbound : ∀ n, amount = some n → 0 ≤ n ∧ n < 10 ^ Amount.maxUnitDigits := by
    rintro n rfl
    exact ⟨hpos n rfl, Amount.lt_of_mapM_parse hamount (hpos n rfl)⟩
  have hdash := Address.startsWith_dash_of_decode haddress
  obtain ⟨rfl, htext⟩ := Address.eq_of_decode haddress
  rw [← htext] at haddress hdash ⊢
  obtain ⟨uri, hbuild, hcanonical, hread⟩ :=
    exists_buildUri (lastGiven s.platform.takesDashes (before ++ behind) "--label")
      (lastGiven s.platform.takesDashes (before ++ behind) "--message") hnetwork.mem_known haddress hbound
      (nodup_keys_ofEntries _) fun e he => hwritable e (mem_of_mem_ofEntries he)
  obtain ⟨hbuilt, hleft⟩ := buildLine hnetwork hdash hamount (fun e he => (hwritable e he).key_free) hbuild
  refine ⟨uri, ofEntries (params (before ++ behind)), hbuilt, not_mem_of_outcome hread, hleft, ?_,
    keys_ofEntries _, lookup_ofEntries _⟩
  intro later hlater
  exact ⟨_, outcome_parseLine hlater hread, fun maxDepth hdepth => PaymentRequest.read_pretty_view hcanonical hdepth⟩

def plainSession : Session where
  defaultPath := "/home/.dgb-uri.yaml"

theorem runCommandLine_build_parse_sample :
    ∃ uri text entries, ∃ extras : List (String × String),
      (runCommandLine plainSession (buildArguments ⟨none, some "mainnet"⟩ [.amount "1.5e1", .param "x" "1"]
        "DCxTHiSxiSxTHExSTUFFzzzzzzzzbSG1oo" [.label "a&b", .param "y" "=2", .param "x" "3 é"])).1.outcome =
          .ok { exit := 0, stdout := uri ++ "\n" } ∧
      (runCommandLine plainSession ["--network=mainnet", "parse", uri]).1.outcome =
        .ok { exit := 0, stdout := text } ∧
      Json.read 2 text = .ok (.map entries) ∧ Value.field (.map entries) "amount_units" = .int 1500000000 ∧
      Value.field (.map entries) "label" = .text "a&b" ∧
      Value.field (.map entries) "extra_parameters" = .map (extras.map fun e => (.text e.1, .text e.2)) ∧
      extras.map Prod.fst = ["x", "y"] ∧ extras.lookup "x" = some "3 é" := by
  have hmain : plainSession.network none none (.text "mainnet") = .ok .mainnet := rfl
  have hwritten : ∀ e ∈ [("x", "1"), ("y", "=2"), ("x", "3 é")],
      (extraParameter e.1 e.2).isOk = true := by decide +kernel
  have haddress : Address.decode .mainnet "DCxTHiSxiSxTHExSTUFFzzzzzzzzbSG1oo" = .ok sample := decode_sample
  have hpos : ∀ n, some (1500000000 : Int) = some n → 0 ≤ n := by
    rintro n ⟨⟩
    decide
  obtain ⟨uri, extras, hbuild, -, -, hparse, hkeys, hlookup⟩ :=
    runCommandLine_build_parse plainSession ⟨none, some "mainnet"⟩ .mainnet "DCxTHiSxiSxTHExSTUFFzzzzzzzzbSG1oo"
      sample [.amount "1.5e1", .param "x" "1"] [.label "a&b", .param "y" "=2", .param "x" "3 é"]
      (some 1500000000) hmain haddress (eq_ok_of_toOption (by decide +kernel)) hpos
      fun e he => exists_of_isOk (hwritten e he)
  obtain ⟨text, hprinted, hread⟩ := hparse plainSession hmain
  exact ⟨uri, text, _, extras, hbuild, hprinted, hread 2 le_rfl, rfl, rfl, rfl, hkeys, hlookup "x"⟩

/-- A label of two dashes is lost where they are taken out: the URI that is built does not carry it. -/
theorem runCommandLine_build_label_dashes :
    plainSession.network none none .null = .ok .mainnet ∧
      (∃ a, Address.decode .mainnet "DCxTHiSxiSxTHExSTUFFzzzzzzzzbSG1oo" = .ok a) ∧
      (runCommandLine plainSession ["build", "--label=--", "DCxTHiSxiSxTHExSTUFFzzzzzzzzbSG1oo"]).1.outcome =
        .ok { exit := 0, stdout := "digibyte:DCxTHiSxiSxTHExSTUFFzzzzzzzzbSG1oo\n" } ∧
      (runCommandLine plainSession ["parse", "digibyte:DCxTHiSxiSxTHExSTUFFzzzzzzzzbSG1oo"]).1.outcome =
        .ok { exit := 0, stdout := "\x7b\n  \"address\": \"DCxTHiSxiSxTHExSTUFFzzzzzzzzbSG1oo\",\n" ++
          "  \"network\": \"mainnet\",\n  \"amount_units\": null,\n  \"amount\": null,\n" ++
          "  \"label\": null,\n  \"message\": null,\n  \"extra_parameters\": \x7b\x7d\n\x7d\n" } ∧
      (runCommandLine { plainSession with platform := { takesDashes := false } }
        ["build", "--label=--", "DCxTHiSxiSxTHExSTUFFzzzzzzzzbSG1oo"]).1.outcome =
          .ok { exit := 0, stdout := "digibyte:DCxTHiSxiSxTHExSTUFFzzzzzzzzbSG1oo?label=--\n" } := by
  exact ⟨rfl, ⟨sample, decode_sample⟩, eq_ok_of_toOption (by decide +kernel),
    eq_ok_of_toOption (by decide +kernel), eq_ok_of_toOption (by decide +kernel)⟩

end PaymentUri
