import PaymentUri.Proofs.Failing
import PaymentUri.Proofs.NodeCheck

namespace PaymentUri

open Checklist (textChecks)

variable {client : Client} {url method body uri text : String} {params v : Value} {status : Int}
  {reply : Reply} {s : Session} {network : Network} {depth : Nat}

theorem Value.filter_get? (v : Value) (key : String) :
    (v.get? key).filter isTruthy = if (v.field key).isTruthy then some (v.field key) else none := by
  rw [field]
  cases v.get? key with
  | none => rfl
  | some w => exact Option.filter_some

/-- The shape of an answer: a map if the status is good, in which an error, if there is one, is a map too. -/
def Value.IsAnswer (good : Bool) (v : Value) : Prop :=
  (good = true → ∃ es, v = .map es) ∧ ((v.field "error").isTruthy = true → ∃ es, v.field "error" = .map es)

/-- Nothing comes back, or no data, or an answer. -/
def Reply.WellFormed (depth : Nat) : Reply → Prop
  | .unreachable _ => True
  | .answered status body =>
      Json.read depth body = .error .malformed ∨ ∃ v, Json.read depth body = .ok v ∧ v.IsAnswer (Client.isGood status)

/-- A kind of faults that a node may give, but that a reply out of shape is not told as. -/
structure CallFault.Separates (p : CallFault → Prop) : Prop where
  node (fault : NodeFault) : p (.node fault)
  misshapen : ¬p .misshapen
  tooDeep (fault : Json.Fault) : ¬p (.tooDeep fault)

theorem CallFault.separates_isNode : Separates IsNode := ⟨fun _ => trivial, id, fun _ => id⟩

theorem CallFault.separates_stop : Separates fun fault => fault.stop.IsTold :=
  ⟨fun _ => trivial, id, fun _ => id⟩

namespace Client

variable {p : CallFault → Prop}

theorem kind_faultOf_iff (hp : CallFault.Separates p) : p (faultOf v) ↔ ∃ es, v = .map es := by
  rw [faultOf.eq_def]
  split
  next es => exact iff_of_true (hp.node _) ⟨es, rfl⟩
  next hne =>
    refine iff_of_false hp.misshapen ?_
    rintro ⟨es, h⟩
    exact hne es h

theorem failsOnly_content_bind_iff (hp : CallFault.Separates p) {f : Option Value → Report CallFault Value}
    (hnone : FailsOnly p (f none).outcome)
    (hsome : ∀ v, FailsOnly p (f (some v)).outcome ↔ v.IsAnswer (isGood status)) :
    FailsOnly p (content depth body >>= f).outcome ↔ (Reply.answered status body).WellFormed depth := by
  rw [Report.outcome_bind, content, Reply.WellFormed]
  split
  next v hread =>
    change FailsOnly _ (f (some v)).outcome ↔ _
    rw [hsome, hread]
    constructor
    · intro hanswer
      exact .inr ⟨v, rfl, hanswer⟩
    · rintro (h | ⟨_, ⟨⟩, hanswer⟩)
      · cases h
      · exact hanswer
  next hread => exact iff_of_true hnone (.inl hread)
  next fault hne hread =>
    refine iff_of_false (mt (failsOnly_error_iff _).mp (hp.tooDeep fault)) ?_
    rw [hread]
    rintro (h | ⟨_, ⟨⟩, -⟩)
    exact hne (Except.error.inj h)

theorem failsOnly_readGood_iff (hp : CallFault.Separates p) (hgood : isGood status = true) :
    FailsOnly p (readGood depth body).outcome ↔ (Reply.answered status body).WellFormed depth := by
  rw [readGood]
  refine failsOnly_content_bind_iff hp ((failsOnly_error_iff _).mpr (hp.node _)) fun v => ?_
  rw [hgood]
  split
  next h => cases h
  next es h =>
    cases h
    dsimp only
    by_cases herror : ((Value.map es).field "error").isTruthy = true
    · rw [if_pos herror]
      change FailsOnly _ (.error (faultOf _)) ↔ _
      rw [failsOnly_error_iff, kind_faultOf_iff hp]
      exact ⟨fun h => ⟨fun _ => ⟨es, rfl⟩, fun _ => h⟩, fun h => h.2 herror⟩
    · rw [if_neg herror]
      exact iff_of_true (failsOnly_ok _) ⟨fun _ => ⟨es, rfl⟩, fun h => absurd h herror⟩
  next hne h =>
    cases h
    refine iff_of_false (mt (failsOnly_error_iff _).mp hp.misshapen) ?_
    rintro ⟨hmap, -⟩
    obtain ⟨es, rfl⟩ := hmap rfl
    exact hne es rfl

theorem failsOnly_readBad_iff (hp : CallFault.Separates p) (hbad : isGood status = false) :
    FailsOnly p (readBad depth url status body).outcome ↔ (Reply.answered status body).WellFormed depth := by
  rw [readBad]
  refine failsOnly_content_bind_iff hp ((failsOnly_error_iff _).mpr (hp.node _)) fun v => ?_
  rw [hbad, Option.bind_some, Value.filter_get?]
  by_cases herror : (v.field "error").isTruthy = true
  · rw [if_pos herror]
    change FailsOnly _ (.error (faultOf _)) ↔ _
    rw [failsOnly_error_iff, kind_faultOf_iff hp]
    exact ⟨fun h => ⟨fun hgood => absurd hgood Bool.false_ne_true, fun _ => h⟩, fun h => h.2 herror⟩
  · rw [if_neg herror]
    exact iff_of_true ((failsOnly_error_iff _).mpr (hp.node _))
      ⟨fun hgood => absurd hgood Bool.false_ne_true, fun h => absurd h herror⟩

theorem failsOnly_call_iff (hp : CallFault.Separates p) (hurl : client.url? = some url) :
    FailsOnly p (client.call depth method params reply).outcome ↔ reply.WellFormed depth := by
  rw [outcome_call hurl]
  cases reply with
  | unreachable reason => exact iff_of_true ((failsOnly_error_iff _).mpr (hp.node _)) trivial
  | answered status body =>
      rw [readReply]
      split
      next hgood => exact failsOnly_readGood_iff hp hgood
      next hbad => exact failsOnly_readBad_iff hp (Bool.eq_false_of_not_eq_true hbad)

end Client

namespace Command

theorem nodeVerdict_of_node {r : Report CallFault Value} {fault : NodeFault}
    (h : r.outcome = .error (.node fault)) : nodeVerdict r = pure ⟨.error fault, r.events⟩ := by
  rw [nodeVerdict, h]

theorem failsOnly_nodeVerdict (r : Report CallFault Value) :
    FailsOnly Stop.IsTold (nodeVerdict r).outcome ↔ FailsOnly (fun fault => fault.stop.IsTold) r.outcome := by
  rw [nodeVerdict]
  split
  next v hv =>
    rw [hv]
    exact iff_of_true (failsOnly_ok _) (failsOnly_ok v)
  next fault hfault =>
    rw [hfault, failsOnly_error_iff]
    exact iff_of_true (failsOnly_ok _) trivial
  next fault _ hfault => rw [hfault, failsOnly_error_iff, failsOnly_error_iff]

theorem exists_nodeVerdict_iff (r : Report CallFault Value) :
    (∃ answer, (nodeVerdict r).outcome = .ok answer) ↔ FailsOnly CallFault.IsNode r.outcome := by
  rw [nodeVerdict]
  split
  next v hv =>
    rw [hv]
    exact iff_of_true ⟨_, rfl⟩ (failsOnly_ok v)
  next fault hfault =>
    rw [hfault, failsOnly_error_iff]
    exact iff_of_true ⟨_, rfl⟩ trivial
  next fault hne hfault =>
    rw [hfault, failsOnly_error_iff]
    refine iff_of_false ?_ ?_
    · rintro ⟨answer, h⟩
      cases h
    · intro h
      cases fault with
      | node fault => exact hne fault rfl
      | _ => exact h

end Command

namespace Client

def resolve (client : Client) (depth : Nat) (reply : Reply) (next : Resolver) (network : Network) (text : String) :
    Report Stop (Report AddressError Payee) := do
  let answer ← Command.nodeVerdict (client.validateAddress depth text reply)
  return viaNode (fun _ => answer) next network text

theorem exists_resolve_iff (hurl : client.url? = some url) {next : Resolver} :
    (∃ r, (client.resolve depth reply next network text).outcome = .ok r ∧
        ∀ fault, (client.validateAddress depth text reply).outcome = .error (.node fault) →
          r.outcome = .error (.nodeFailed fault.message)) ↔
      reply.WellFormed depth := by
  have hcall : FailsOnly CallFault.IsNode (client.validateAddress depth text reply).outcome ↔ reply.WellFormed depth :=
    failsOnly_call_iff CallFault.separates_isNode hurl
  rw [← hcall, ← Command.exists_nodeVerdict_iff, resolve]
  constructor
  · rintro ⟨r, hr, -⟩
    rw [Report.outcome_bind, bind_eq_ok_iff] at hr
    obtain ⟨answer, hanswer, -⟩ := hr
    exact ⟨answer, hanswer⟩
  · rintro ⟨answer, hanswer⟩
    refine ⟨viaNode (fun _ => answer) next network text, ?_, fun fault hfault => ?_⟩
    · rw [Report.outcome_bind, bind_eq_ok_iff]
      exact ⟨answer, hanswer, rfl⟩
    · rw [Command.nodeVerdict_of_node hfault] at hanswer
      cases hanswer
      rfl

end Client

namespace Command

theorem failsOnly_askAndRead_iff (hurl : client.url? = some url) :
    FailsOnly Stop.IsTold (askAndRead s network uri client).outcome ↔
      (Check.first? (textChecks network.scheme uri) = none → (s.reply 1).WellFormed s.platform.replyDepth) := by
  rw [askAndRead, Report.failsOnly_bind_iff_left fun _ => failsOnly_ok _]
  cases hread : Draft.read network.scheme uri with
  | error rejection =>
      refine iff_of_true (failsOnly_ok _) fun hpassed => ?_
      rw [Checklist.read_eq_ok_of_passed hpassed] at hread
      cases hread
  | ok draft =>
      obtain ⟨hpassed, -⟩ := (Checklist.read_obeys network.scheme uri).eq_ok_iff.mp hread
      dsimp only
      rw [Report.failsOnly_bind_iff_left fun _ => failsOnly_ok _, failsOnly_nodeVerdict,
        Client.validateAddress, Client.failsOnly_call_iff CallFault.separates_stop hurl]
      exact ⟨fun h _ => h, fun h => h (Check.first?_eq_none_iff.mpr hpassed)⟩

theorem failsOnly_runParse_iff {c : Connection} (hc : s.connection none none .null = .ok c) :
    FailsOnly Stop.IsTold (runParse s network uri true).outcome ↔
      ∀ url, c.baseUrl? = some url →
        (s.reply 0).WellFormed s.platform.replyDepth ∧
          ∀ info, (s.reply 0).HasResult s.platform.replyDepth info → checkChain network info = .ok () →
            Check.first? (textChecks network.scheme uri) = none → (s.reply 1).WellFormed s.platform.replyDepth := by
  rw [runParse_checked_eq, hc]
  change FailsOnly _ (_ >>= fun info => Report.ofExcept (checkChain network info) >>= fun _ =>
    askAndRead s network uri (Client.ofConnection c) : Report Stop Output).outcome ↔ _
  rw [Report.failsOnly_bind_iff, Report.outcome_mapError, failsOnly_mapError_iff, Client.chainInfo]
  cases hurl : c.baseUrl? with
  | none =>
      rw [Client.outcome_call_of_unwritable hurl]
      refine iff_of_true ⟨(failsOnly_error_iff _).mpr trivial, ?_⟩ nofun
      rintro info ⟨⟩
  | some url =>
      have hwritten : (Client.ofConnection c).url? = some url := hurl
      rw [Client.failsOnly_call_iff CallFault.separates_stop hwritten]
      constructor
      · rintro ⟨hfirst, hrest⟩ _ ⟨⟩
        refine ⟨hfirst, fun info hinfo hchain => ?_⟩
        have hcall : ((Client.ofConnection c).call s.platform.replyDepth "getblockchaininfo" .null
            (s.reply 0)).outcome = .ok info :=
          Client.outcome_call_eq_ok_iff.mpr ⟨⟨url, hwritten⟩, hinfo⟩
        have hasked := hrest info (congrArg (Except.mapError CallFault.stop) hcall)
        rw [hchain, Report.ofExcept_ok_bind] at hasked
        exact (failsOnly_askAndRead_iff hwritten).mp hasked
      · intro h
        obtain ⟨hfirst, hsecond⟩ := h url rfl
        refine ⟨hfirst, fun info hinfo => ?_⟩
        obtain ⟨-, hresult⟩ := Client.outcome_call_eq_ok_iff.mp (eq_ok_of_mapError hinfo)
        rw [Report.failsOnly_bind_iff]
        refine ⟨failsOnly_checkChain network info, ?_⟩
        rintro ⟨⟩ hchain
        exact (failsOnly_askAndRead_iff hwritten).mpr (hsecond info hresult hchain)

theorem exists_outcome_nodeCheck_iff {argv : List String} {args : Arguments} {c : Connection} {t : Session}
    (hread : Arguments.read s.platform.takesDashes argv = .ok { args with command := .parse uri true })
    (henter : s.enter args = .ok t) (hc : t.connection none none .null = .ok c) :
    (∃ out, (runCommandLine s argv).1.outcome = .ok out) ↔
      ∀ network url,
        t.network none none (networkName args.network) = .ok network → c.baseUrl? = some url →
          (s.reply 0).WellFormed s.platform.replyDepth ∧
            ∀ info, (s.reply 0).HasResult s.platform.replyDepth info → checkChain network info = .ok () →
              Check.first? (textChecks network.scheme uri) = none →
                (s.reply 1).WellFormed s.platform.replyDepth := by
  have hreply (n : Nat) : t.reply n = s.reply n := by
    rw [Session.reply, Session.replies_of_enter henter, Session.reply]
  have hnetwork : FailsOnly SettingsFault.IsConfig (t.network none none (networkName args.network)) := by
    obtain ⟨file, hfile, -⟩ := bind_eq_ok_iff.mp hc
    rw [Session.network, hfile]
    exact Settings.failsOnly_network _ _ _ _
  rw [runCommandLine_of_read hread henter, exists_recover_iff, run, Report.failsOnly_bind_iff,
    Report.outcome_ofExcept, failsOnly_mapError_iff,
    and_iff_right (hnetwork.mono fun _ h => h.stop)]
  rw [← Session.platform_of_enter henter, ← hreply 0, ← hreply 1]
  constructor
  · intro h network url hloaded hurl
    exact (failsOnly_runParse_iff hc).mp (h network (congrArg _ hloaded)) url hurl
  · intro h network hloaded
    exact (failsOnly_runParse_iff hc).mpr fun url hurl => h network url (eq_ok_of_mapError hloaded) hurl

end Command

/-- A call has a value or a fault of the node exactly for the replies that are well-formed. So an address is
resolved or refused over it, and reading with a node ends with a status, exactly when the replies that are
looked at are. -/
theorem wellFormed_replies_are_told (client : Client) (url : String) (depth : Nat) (reply : Reply)
    (hurl : client.url? = some url) :
    (∀ (method : String) (params : Value),
        FailsOnly CallFault.IsNode (client.call depth method params reply).outcome ↔ reply.WellFormed depth) ∧
      (∀ (next : Resolver) (network : Network) (text : String),
        (∃ r, (client.resolve depth reply next network text).outcome = .ok r ∧
            ∀ fault, (client.validateAddress depth text reply).outcome = .error (.node fault) →
              r.outcome = .error (.nodeFailed fault.message)) ↔
          reply.WellFormed depth) ∧
      ∀ (s t : Session) (argv : List String) (args : Arguments) (uri : String) (c : Connection),
        Arguments.read s.platform.takesDashes argv = .ok { args with command := .parse uri true } →
          s.enter args = .ok t → t.connection none none .null = .ok c →
            ((∃ out, (runCommandLine s argv).1.outcome = .ok out) ↔
              ∀ network url, t.network none none (Command.networkName args.network) = .ok network →
                c.baseUrl? = some url →
                  (s.reply 0).WellFormed s.platform.replyDepth ∧
                    ∀ info, (s.reply 0).HasResult s.platform.replyDepth info →
                      Command.checkChain network info = .ok () →
                        Check.first? (textChecks network.scheme uri) = none →
                          (s.reply 1).WellFormed s.platform.replyDepth) := by
  refine ⟨fun method params => ?_, fun next network text => ?_,
    fun s t argv args uri c hread henter hc => Command.exists_outcome_nodeCheck_iff hread henter hc⟩
  · exact Client.failsOnly_call_iff CallFault.separates_isNode hurl
  · exact Client.exists_resolve_iff hurl

theorem wellFormed_replies_are_told_sample :
    FailsOnly CallFault.IsNode
        (Client.call ({} : Platform).replyDepth
          { url? := some "http://node:14022", user := .text "user", password := .text "password" }
          "getblockchaininfo" .null (.answered 500 "\x7b\"error\": \x7b\"code\": -5\x7d\x7d")).outcome ∧
      (∃ r, (Client.resolve { url? := some "http://node:14022", user := .text "user", password := .text "password" }
        ({} : Platform).replyDepth (.unreachable "refused") offline .mainnet
        "DCxTHiSxiSxTHExSTUFFzzzzzzzzbSG1oo").outcome = .ok r) ∧
      ∃ out, (runCommandLine checkedSession
        ["parse", "--node-check", "digibyte:DCxTHiSxiSxTHExSTUFFzzzzzzzzbSG1oo?amount=2"]).1.outcome = .ok out := by
  let client : Client :=
    { url? := some "http://node:14022", user := .text "user", password := .text "password" }
  obtain ⟨hcall, -, hcommand⟩ := wellFormed_replies_are_told client _ ({} : Platform).replyDepth
    (.answered 500 "\x7b\"error\": \x7b\"code\": -5\x7d\x7d") rfl
  obtain ⟨-, hresolve, -⟩ := wellFormed_replies_are_told client _ ({} : Platform).replyDepth
    (.unreachable "refused") rfl
  refine ⟨(hcall _ _).mpr (.inr ⟨_, rfl, nofun, fun _ => ⟨_, rfl⟩⟩), ?_, ?_⟩
  · obtain ⟨r, hr, -⟩ := (hresolve offline .mainnet "DCxTHiSxiSxTHExSTUFFzzzzzzzzbSG1oo").mpr trivial
    exact ⟨r, hr⟩
  · let uri := "digibyte:DCxTHiSxiSxTHExSTUFFzzzzzzzzbSG1oo?amount=2"
    let args : Arguments := ⟨none, none, false, .parse uri true⟩
    obtain ⟨t, ht⟩ : ∃ t, checkedSession.enter args = .ok t := ⟨_, rfl⟩
    obtain ⟨c, hc⟩ : ∃ c, t.connection none none .null = .ok c := by
      cases ht
      exact exists_of_isOk (by decide +kernel)
    refine (hcommand checkedSession t _ args uri c (by decide +kernel) ht hc).mpr fun network url _ _ => ⟨?_, ?_⟩
    · exact .inr ⟨_, rfl, fun _ => ⟨_, rfl⟩, nofun⟩
    · intro info _ _ _
      exact .inr ⟨_, rfl, fun _ => ⟨_, rfl⟩, nofun⟩

/-- A list is not told: nothing that the call of it comes to is a fault of the node, and the command crashes. -/
theorem runCommandLine_list_reply_crashes :
    ¬FailsOnly CallFault.IsNode
        (Client.call ({} : Platform).replyDepth
          { url? := some "http://127.0.0.1:14022", user := .text "user", password := .text "password" }
          "getblockchaininfo" .null (.answered 200 "[]")).outcome ∧
      (runCommandLine { checkedSession with replies := [.answered 200 "[]"] }
        ["parse", "--node-check", "digibyte:DCxTHiSxiSxTHExSTUFFzzzzzzzzbSG1oo?amount=2"]).1.outcome =
          .error .misshapenReply := by
  constructor
  · intro h
    exact h .misshapen rfl
  · decide +kernel

end PaymentUri
