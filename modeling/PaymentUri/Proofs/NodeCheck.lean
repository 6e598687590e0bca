import PaymentUri.Proofs.NodeResolver
import PaymentUri.Proofs.Run

namespace PaymentUri

open Checklist (address)

variable {s : Session} {network : Network} {uri : String} {connection : Connection} {url : String}
  {info : Value} {out : Output}

theorem Session.exists_replies {depth n : Nat} {v : Value} (h : (s.reply n).HasResult depth v) :
    ∃ reply, s.replies[n]? = some reply ∧ reply.HasResult depth v := by
  rw [Session.reply, List.getD_eq_getElem?_getD] at h
  cases hn : s.replies[n]? with
  | none =>
      rw [hn] at h
      obtain ⟨status, body, entries, hreply, -⟩ := h
      cases hreply
  | some reply =>
      rw [hn] at h
      exact ⟨reply, rfl, h⟩

theorem eq_cons_cons_of_getElem? {α : Type} {xs : List α} {x y : α} (hx : xs[0]? = some x)
    (hy : xs[1]? = some y) : xs = x :: y :: xs.drop 2 := by
  obtain ⟨h0, rfl⟩ := List.getElem?_eq_some_iff.mp hx
  obtain ⟨h1, rfl⟩ := List.getElem?_eq_some_iff.mp hy
  have hrest : xs.drop 1 = xs[1] :: xs.drop 2 := List.drop_eq_getElem_cons h1
  exact (List.drop_eq_getElem_cons h0).trans (congrArg _ hrest)

namespace Command

def chains : List (Network × String) := [(.mainnet, "main"), (.testnet, "test")]

theorem chainName?_of_known (h : network ∈ Network.known) :
    ∃ chain, chainName? network = some chain ∧ (network, chain) ∈ chains := by
  rcases List.mem_cons.mp h with rfl | h
  · exact ⟨"main", rfl, List.mem_cons_self⟩
  · rw [List.mem_singleton.mp h]
    exact ⟨"test", rfl, List.mem_cons_of_mem _ List.mem_cons_self⟩

theorem chain_of_checkChain (hknown : network ∈ Network.known) (h : checkChain network info = .ok ()) :
    ∃ entries chain, info = .map entries ∧ (network, chain) ∈ chains ∧
      Value.field (.map entries) "chain" = .text chain := by
  obtain ⟨chain, hchain, hmem⟩ := chainName?_of_known hknown
  rw [checkChain.eq_def] at h
  split at h
  next entries =>
    rw [hchain] at h
    dsimp only [Option.all_some] at h
    refine ⟨entries, chain, rfl, hmem, ?_⟩
    split at h
    next name hname =>
      split at h
      next hsame => rw [hname, beq_iff_eq.mp hsame]
      next => cases h
    next => cases h
  next => cases h

theorem nodeVerdict_cases (r : Report CallFault Value) :
    (∃ answer, nodeVerdict r = pure answer ∧ answer.posts = r.posts ∧
        ∀ v, answer.outcome = .ok v → r.outcome = .ok v) ∨
      ∃ stop, nodeVerdict r = ⟨.error stop, r.events⟩ := by
  rw [nodeVerdict]
  split
  next v hv =>
    refine .inl ⟨_, rfl, rfl, ?_⟩
    rintro w ⟨⟩
    exact hv
  next fault _ =>
    refine .inl ⟨_, rfl, rfl, ?_⟩
    rintro w ⟨⟩
  next => exact .inr ⟨_, rfl⟩

def checkPosts (c : Connection) (url text : String) : List Post :=
  [⟨url, "getblockchaininfo", .list [], c.user, c.password, .int 30⟩,
    ⟨url, "validateaddress", .list [.text text], c.user, c.password, .int 30⟩]

def askAndRead (s : Session) (network : Network) (uri : String) (client : Client) : Report Stop Output :=
  (match Draft.read network.scheme uri with
    | .error _ => pure (parseUri network uri)
    | .ok draft => do
        let answer ← nodeVerdict (client.validateAddress s.platform.replyDepth draft.address (s.reply 1))
        return parseUri network uri (viaNode (fun _ => answer) offline)) >>= fun r =>
    ⟨.ok (parseOutput r.outcome), r.events⟩

theorem runParse_checked_eq (s : Session) (network : Network) (uri : String) :
    runParse s network uri true =
      Report.ofExcept ((s.connection none none .null).mapError SettingsFault.stop) >>= fun connection =>
        ((Client.ofConnection connection).chainInfo s.platform.replyDepth (s.reply 0)).mapError CallFault.stop >>=
          fun info => Report.ofExcept (checkChain network info) >>= fun _ =>
            askAndRead s network uri (Client.ofConnection connection) := by
  rw [runParse, if_pos rfl, parseChecked]
  simp only [Report.bind_assoc]
  rfl

theorem posts_askAndRead {client : Client} (hurl : client.url? = some url) :
    (askAndRead s network uri client).posts <+:
      [client.request url "validateaddress" (.list [.text (String.ofList (address uri))])] := by
  rw [askAndRead]
  cases hread : Draft.read network.scheme uri with
  | error rejection =>
      have hposts : (parseUri network uri).posts = [] := by rw [posts_parseUri, hread]
      change (parseUri network uri).posts <+: _
      rw [hposts]
      exact List.nil_prefix
  | ok draft =>
      obtain ⟨-, rfl⟩ := (Checklist.read_obeys network.scheme uri).eq_ok_iff.mp hread
      have hasked : (client.validateAddress s.platform.replyDepth (String.ofList (address uri)) (s.reply 1)).posts = _ :=
        Client.posts_validateAddress hurl
      dsimp only
      obtain ⟨answer, hanswer, hposts, -⟩ | ⟨stop, hstop⟩ :=
        nodeVerdict_cases (client.validateAddress s.platform.replyDepth (String.ofList (address uri)) (s.reply 1))
      · rw [hanswer]
        change (parseUri network uri (viaNode (fun _ => answer) offline)).posts <+: _
        rw [posts_parseUri, hread]
        dsimp only
        rw [posts_viaNode rfl, hposts, hasked]
      · rw [hstop]
        change (client.validateAddress s.platform.replyDepth (String.ofList (address uri)) (s.reply 1)).posts <+: _
        rw [hasked]

theorem confirmed_of_askAndRead {client : Client} (h : (askAndRead s network uri client).outcome = .ok out)
    (hexit : out.exit = 0) :
    out = parseOutput (parseUri network uri).outcome ∧
      ∃ verdict, (s.reply 1).HasResult s.platform.replyDepth (.map verdict) ∧
        (Value.field (.map verdict) "isvalid").isTruthy = true := by
  rw [askAndRead] at h
  cases hread : Draft.read network.scheme uri with
  | error rejection =>
      rw [hread] at h
      cases h
      obtain ⟨r, hr⟩ := exists_of_exit_parseOutput hexit
      rw [parseUri_of_read_error hread] at hr
      cases hr
  | ok draft =>
      rw [hread] at h
      dsimp only at h
      obtain ⟨answer, hanswer, -, hvalue⟩ | ⟨stop, hstop⟩ :=
        nodeVerdict_cases (client.validateAddress s.platform.replyDepth draft.address (s.reply 1))
      · rw [hanswer] at h
        cases h
        obtain ⟨r, hr⟩ := exists_of_exit_parseOutput hexit
        have hconfirms := confirms_of_outcome hr
        refine ⟨congrArg parseOutput (parseUri_viaNode_of_confirms hconfirms), ?_⟩
        obtain ⟨verdict, hverdict, hvalid⟩ := hconfirms
        obtain ⟨-, hresult⟩ := Client.outcome_call_eq_ok_iff.mp (hvalue _ hverdict)
        exact ⟨verdict, hresult, hvalid⟩
      · rw [hstop] at h
        cases h

theorem posts_runParse_checked (s : Session) (network : Network) (uri : String) :
    (runParse s network uri true).posts = [] ∨
      ∃ c url, s.connection none none .null = .ok c ∧ c.baseUrl? = some url ∧
        (runParse s network uri true).posts <+: checkPosts c url (String.ofList (address uri)) := by
  rw [runParse_checked_eq, Report.posts_ofExcept_bind]
  cases hc : s.connection none none .null with
  | error fault => exact .inl rfl
  | ok c =>
      dsimp only [Except.mapError]
      rw [Report.posts_bind, Report.posts_mapError]
      cases hurl : c.baseUrl? with
      | none =>
          left
          have hposts : ((Client.ofConnection c).chainInfo s.platform.replyDepth (s.reply 0)).posts = [] :=
            Client.posts_call_of_unwritable hurl
          rw [hposts, List.nil_append]
          split
          next info hinfo =>
            have hok := Client.outcome_call_eq_ok_iff.mp (eq_ok_of_mapError hinfo)
            obtain ⟨⟨url, hwritten⟩, -⟩ := hok
            rw [show (Client.ofConnection c).url? = none from hurl] at hwritten
            cases hwritten
          next => rfl
      | some url =>
          refine .inr ⟨c, url, rfl, hurl, ?_⟩
          rw [Client.posts_chainInfo (show (Client.ofConnection c).url? = some url from hurl)]
          refine (List.prefix_cons_inj _).mpr ?_
          split
          next info _ =>
            rw [Report.posts_ofExcept_bind]
            split
            next => exact posts_askAndRead hurl
            next => exact List.nil_prefix
          next => exact List.nil_prefix

/-- A status of zero comes from the right chain, a confirmed address and an accepted URI. -/
theorem checked_of_runParse (hknown : network ∈ Network.known)
    (h : (runParse s network uri true).outcome = .ok out) (hexit : out.exit = 0) :
    out = parseOutput (parseUri network uri).outcome ∧
      (∃ info chain, (s.reply 0).HasResult s.platform.replyDepth (.map info) ∧ (network, chain) ∈ chains ∧
        Value.field (.map info) "chain" = .text chain) ∧
      ∃ verdict, (s.reply 1).HasResult s.platform.replyDepth (.map verdict) ∧
        (Value.field (.map verdict) "isvalid").isTruthy = true := by
  rw [runParse_checked_eq, Report.outcome_bind, bind_eq_ok_iff] at h
  obtain ⟨c, -, h⟩ := h
  rw [Report.outcome_bind, bind_eq_ok_iff] at h
  obtain ⟨info, hinfo, h⟩ := h
  rw [Report.outcome_bind, bind_eq_ok_iff] at h
  obtain ⟨⟨⟩, hchain, h⟩ := h
  obtain ⟨hout, hconfirmed⟩ := confirmed_of_askAndRead h hexit
  obtain ⟨-, hresult⟩ := Client.outcome_call_eq_ok_iff.mp (eq_ok_of_mapError hinfo)
  obtain ⟨entries, chain, rfl, hmem, hfield⟩ := chain_of_checkChain hknown hchain
  exact ⟨hout, ⟨entries, chain, hresult, hmem, hfield⟩, hconfirmed⟩

end Command

/-- Reading with a node makes at most two requests, in this order and to the configured connection: for
the state of its chain and about the address of the URI. It ends with a status of zero only when the first
two replies have the results that are asked for, and then leaves behind what reading without a node does. -/
theorem runCommandLine_nodeCheck_sound (s : Session) (argv argv' : List String) (args : Arguments)
    (uri : String)
    (hread : Arguments.read s.platform.takesDashes argv = .ok { args with command := .parse uri true })
    (hread' : Arguments.read s.platform.takesDashes argv' = .ok { args with command := .parse uri false }) :
    ((runCommandLine s argv).1.posts = [] ∨
        ∃ t c url, s.enter args = .ok t ∧ t.connection none none .null = .ok c ∧ c.baseUrl? = some url ∧
          (runCommandLine s argv).1.posts <+:
            [⟨url, "getblockchaininfo", .list [], c.user, c.password, .int 30⟩,
              ⟨url, "validateaddress", .list [.text (String.ofList (address uri))], c.user, c.password,
                .int 30⟩]) ∧
      ∀ out, (runCommandLine s argv).1.outcome = .ok out → out.exit = 0 →
        ∃ t network chain first second rest info verdict,
          s.enter args = .ok t ∧ t.network none none (Command.networkName args.network) = .ok network ∧
            (network, chain) ∈ [(Network.mainnet, "main"), (Network.testnet, "test")] ∧
            s.replies = first :: second :: rest ∧
            first.HasResult s.platform.replyDepth (.map info) ∧ Value.field (.map info) "chain" = .text chain ∧
            second.HasResult s.platform.replyDepth (.map verdict) ∧
            (Value.field (.map verdict) "isvalid").isTruthy = true ∧
            (runCommandLine s argv').1.outcome = .ok out := by
  cases henter : s.enter args with
  | error fault =>
      rw [runCommandLine_of_homeless hread henter]
      dsimp only
      refine ⟨.inl (Command.posts_recover _), fun out hout hexit => ?_⟩
      cases Command.outcome_of_recover hout hexit
  | ok t =>
      rw [runCommandLine_of_read hread henter, runCommandLine_of_read hread' henter]
      dsimp only
      rw [Command.posts_recover]
      constructor
      · rw [Command.run, Report.posts_ofExcept_bind]
        cases hnetwork : t.network none none (Command.networkName args.network) with
        | error fault => exact .inl rfl
        | ok network =>
            refine (Command.posts_runParse_checked t network uri).imp_right ?_
            rintro ⟨c, url, hc⟩
            exact ⟨t, c, url, rfl, hc⟩
      · intro out hout hexit
        have hrun := Command.outcome_of_recover hout hexit
        have hloaded := hrun
        rw [Command.run, Report.outcome_bind, bind_eq_ok_iff] at hloaded
        obtain ⟨network, hnetwork, -⟩ := hloaded
        replace hnetwork := eq_ok_of_mapError hnetwork
        rw [Command.outcome_run_parse hnetwork] at hrun
        obtain ⟨rfl, ⟨info, chain, hinfo, hchain, hfield⟩, verdict, hverdict, hvalid⟩ :=
          Command.checked_of_runParse (Session.mem_known_of_network hnetwork) hrun hexit
        rw [Session.platform_of_enter henter] at hinfo hverdict
        obtain ⟨first, hfirst, hinfo⟩ := Session.exists_replies hinfo
        obtain ⟨second, hsecond, hverdict⟩ := Session.exists_replies hverdict
        rw [Session.replies_of_enter henter] at hfirst hsecond
        have hoffline := Command.outcome_run_parse hnetwork uri false
        exact ⟨t, network, chain, first, second, s.replies.drop 2, info, verdict, rfl, hnetwork, hchain,
          eq_cons_cons_of_getElem? hfirst hsecond, hinfo, hfield, hverdict, hvalid,
          Command.outcome_recover_of_ok hoffline⟩

def checkedSession : Session where
  defaultPath := "/home/.dgb-uri.yaml"
  environment := [("DGB_RPC_USER", "user"), ("DGB_RPC_PASSWORD", "password")]
  replies := [.answered 200 "\x7b\"result\": \x7b\"chain\": \"main\"\x7d\x7d",
    .answered 200 "\x7b\"result\": \x7b\"isvalid\": true\x7d\x7d"]

theorem runCommandLine_nodeCheck_sound_sample :
    ∃ out, (runCommandLine checkedSession
        ["parse", "--node-check", "digibyte:DCxTHiSxiSxTHExSTUFFzzzzzzzzbSG1oo?amount=2"]).1.outcome = .ok out ∧
      out.exit = 0 ∧
      (runCommandLine checkedSession
        ["parse", "digibyte:DCxTHiSxiSxTHExSTUFFzzzzzzzzbSG1oo?amount=2"]).1.outcome = .ok out := by
  have hstatus : (runCommandLine checkedSession
      ["parse", "--node-check",
        "digibyte:DCxTHiSxiSxTHExSTUFFzzzzzzzzbSG1oo?amount=2"]).1.outcome.toOption.map Output.exit =
      some 0 := by decide +kernel
  obtain ⟨out, hout, hexit⟩ := Option.map_eq_some_iff.mp hstatus
  obtain ⟨-, hsound⟩ := runCommandLine_nodeCheck_sound checkedSession
    ["parse", "--node-check", "digibyte:DCxTHiSxiSxTHExSTUFFzzzzzzzzbSG1oo?amount=2"]
    ["parse", "digibyte:DCxTHiSxiSxTHExSTUFFzzzzzzzzbSG1oo?amount=2"]
    ⟨none, none, false, .parse "digibyte:DCxTHiSxiSxTHExSTUFFzzzzzzzzbSG1oo?amount=2" false⟩
    "digibyte:DCxTHiSxiSxTHExSTUFFzzzzzzzzbSG1oo?amount=2" (by decide +kernel) (by decide +kernel)
  obtain ⟨_, _, _, _, _, _, _, _, -, -, -, -, -, -, -, -, hoffline⟩ := hsound out (eq_ok_of_toOption hout) hexit
  exact ⟨out, eq_ok_of_toOption hout, hexit, hoffline⟩

end PaymentUri
