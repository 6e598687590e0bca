import PaymentUri.Proofs.Answers
import PaymentUri.Session.Step

namespace PaymentUri

variable {client : Client} {url method body : String} {params v : Value} {status : Int} {reply : Reply}
  {es fault : List (Value × Value)} {out : Except CallFault Value} {s : Session} {source : ClientSource} {n : Nat}
  {calls : List Call} {depth : Nat}

namespace Json

variable {stack : List Frame}

theorem foldlM_brackets (hstack : stack.length < depth) (hdeep : depth ≤ stack.length + n) (rest : List Char) :
    (List.replicate n '[' ++ rest).foldlM (advance depth) (.nothing, .firstItem stack) = .error .deepList := by
  induction n generalizing stack with
  | zero => omega
  | succ n ih =>
      have hstep : advance depth (.nothing, .firstItem stack) '[' =
          (openList depth (.items [] :: stack)).map (.nothing, ·) := by
        rw [advance]
        change ((step depth (.firstItem stack) .openList >>= pure).map _) = _
        rw [bind_pure]
        rfl
      rw [List.replicate_succ, List.cons_append, List.foldlM_cons, hstep, openList]
      split
      next hlt => exact ih hlt (by rw [List.length_cons]; omega)
      next => rfl

/-- Lists that are opened too deep are given up before it is seen whether they are closed. -/
theorem read_brackets (hdeep : depth < n) (rest : List Char) :
    read depth (String.ofList (List.replicate n '[' ++ rest)) = .error .deepList := by
  obtain ⟨n, rfl⟩ : ∃ m, n = m + 1 := ⟨n - 1, by omega⟩
  have hfold : (List.replicate (n + 1) '[' ++ rest).foldlM (advance depth) (.nothing, .value []) =
      .error .deepList := by
    have hstep : advance depth (.nothing, .value []) '[' = (openList depth []).map (.nothing, ·) := by
      rw [advance]
      change ((step depth (.value []) .openList >>= pure).map _) = _
      rw [bind_pure]
      rfl
    rw [List.replicate_succ, List.cons_append, List.foldlM_cons, hstep, openList]
    split
    next hlt => exact foldlM_brackets hlt (by rw [List.length_nil]; omega) rest
    next => rfl
  rw [read, String.toList_ofList, hfold]
  rfl

end Json

/-- What a call comes to when it is answered. A body that is no data and one that has no error are told by the
status if it is a bad one; the last two are not told as faults of the node. -/
inductive Reply.Gives (depth : Nat) : Reply → Except CallFault Value → Prop where
  | unreachable (reason : String) :
      Gives depth (.unreachable reason) (.error (.node (.transport NodeFault.unreachableMessage none)))
  | refused {status : Int} {body : String} {es fault : List (Value × Value)}
      (hread : Json.read depth body = .ok (.map es)) (herror : (Value.map es).field "error" = .map fault)
      (hne : fault ≠ []) :
      Gives depth (.answered status body)
        (.error (.node (.refused (((Value.map fault).get? "code").getD (.int (-1)))
          (((Value.map fault).get? "message").getD (.text "unknown")))))
  | bad {status : Int} {body : String} (hstatus : 400 ≤ status ∧ status < 600)
      (hread : Json.read depth body = .error .malformed ∨
        ∃ v, Json.read depth body = .ok v ∧ ((∀ es, v ≠ .map es) ∨ (v.field "error").isTruthy = false)) :
      Gives depth (.answered status body) (.error (.node (.ofStatus status)))
  | malformed {status : Int} {body : String} (hstatus : ¬(400 ≤ status ∧ status < 600))
      (hread : Json.read depth body = .error .malformed) :
      Gives depth (.answered status body) (.error (.node (.transport "RPC server returned malformed JSON" none)))
  | result {status : Int} {body : String} {es : List (Value × Value)} (hstatus : ¬(400 ≤ status ∧ status < 600))
      (hread : Json.read depth body = .ok (.map es)) (herror : ((Value.map es).field "error").isTruthy = false) :
      Gives depth (.answered status body) (.ok ((Value.map es).field "result"))
  | misshapen {status : Int} {body : String} {v : Value} (hread : Json.read depth body = .ok v)
      (hshape : ¬v.IsAnswer (Client.isGood status)) :
      Gives depth (.answered status body) (.error .misshapen)
  | tooDeep {status : Int} {body : String} {fault : Json.Fault} (hread : Json.read depth body = .error fault)
      (hdeep : fault ≠ .malformed) : Gives depth (.answered status body) (.error (.tooDeep fault))

namespace Client

theorem isGood_eq_false_iff : isGood status = false ↔ 400 ≤ status ∧ status < 600 := by
  simp [isGood]

theorem isGood_iff : isGood status = true ↔ ¬(400 ≤ status ∧ status < 600) := by
  rw [← isGood_eq_false_iff, Bool.not_eq_false]

theorem isTruthy_map (h : fault ≠ []) : (Value.map fault).isTruthy = true := by
  simpa [Value.isTruthy] using h

theorem outcome_content_bind (hread : Json.read depth body = .ok v) (f : Option Value → Report CallFault Value) :
    (content depth body >>= f).outcome = (f (some v)).outcome := by
  rw [Report.outcome_bind, content, hread]
  rfl

theorem outcome_content_bind_of_malformed (hread : Json.read depth body = .error .malformed)
    (f : Option Value → Report CallFault Value) : (content depth body >>= f).outcome = (f none).outcome := by
  rw [Report.outcome_bind, content, hread]
  rfl

theorem outcome_content_bind_of_deep {fault : Json.Fault} (hread : Json.read depth body = .error fault)
    (hdeep : fault ≠ .malformed) (f : Option Value → Report CallFault Value) :
    (content depth body >>= f).outcome = .error (.tooDeep fault) := by
  rw [Report.outcome_bind, content, hread]
  cases fault with
  | malformed => exact absurd rfl hdeep
  | _ => rfl

theorem outcome_readReply (status : Int) (body : String) :
    (readReply depth url (.answered status body)).outcome =
      if 400 ≤ status ∧ status < 600 then (readBad depth url status body).outcome else (readGood depth body).outcome := by
  rw [readReply]
  by_cases hstatus : 400 ≤ status ∧ status < 600
  · rw [if_pos hstatus, isGood_eq_false_iff.mpr hstatus]
    rfl
  · rw [if_neg hstatus, isGood_iff.mpr hstatus]
    rfl

theorem outcome_readBad_of_error (hread : Json.read depth body = .ok v) (herror : (v.field "error").isTruthy = true) :
    (readBad depth url status body).outcome = .error (faultOf (v.field "error")) := by
  rw [readBad, outcome_content_bind hread, Option.bind_some, Value.filter_get?, if_pos herror]
  rfl

theorem outcome_readBad_of_none (hread : Json.read depth body = .error .malformed ∨
    ∃ v, Json.read depth body = .ok v ∧ (v.field "error").isTruthy = false) :
    (readBad depth url status body).outcome = .error (.node (.ofStatus status)) := by
  rcases hread with hread | ⟨v, hread, herror⟩
  · rw [readBad, outcome_content_bind_of_malformed hread]
    rfl
  · rw [readBad, outcome_content_bind hread, Option.bind_some, Value.filter_get?, if_neg (by simp [herror])]
    rfl

theorem outcome_readGood_of_error (hread : Json.read depth body = .ok (.map es))
    (herror : ((Value.map es).field "error").isTruthy = true) :
    (readGood depth body).outcome = .error (faultOf ((Value.map es).field "error")) := by
  rw [readGood, outcome_content_bind hread]
  dsimp only
  rw [if_pos herror]
  rfl

theorem outcome_readGood_of_ne_map (hread : Json.read depth body = .ok v) (hne : ∀ es, v ≠ .map es) :
    (readGood depth body).outcome = .error .misshapen := by
  rw [readGood, outcome_content_bind hread]
  cases v with
  | map es => exact absurd rfl (hne es)
  | _ => rfl

theorem faultOf_of_ne_map (hne : ∀ es, v ≠ .map es) : faultOf v = .misshapen := by
  cases v with
  | map es => exact absurd rfl (hne es)
  | _ => rfl

end Client

theorem Value.isTruthy_field_of_ne_map (hne : ∀ es, v ≠ .map es) (key : String) : (v.field key).isTruthy = false := by
  cases v with
  | map es => exact absurd rfl (hne es)
  | _ => rfl

theorem Value.exists_map_of_isTruthy {key : String} (h : (v.field key).isTruthy = true) : ∃ es, v = .map es := by
  by_contra hne
  rw [isTruthy_field_of_ne_map (not_exists.mp hne)] at h
  cases h

namespace Reply

open Client

theorem Gives.outcome_eq (h : reply.Gives depth out) : (readReply depth url reply).outcome = out := by
  cases h with
  | unreachable reason => rfl
  | refused hread herror hne =>
      have htruthy : ((Value.map _).field "error").isTruthy = true := herror ▸ isTruthy_map hne
      rw [outcome_readReply, outcome_readBad_of_error hread htruthy, outcome_readGood_of_error hread htruthy, ite_self,
        herror]
      rfl
  | bad hstatus hread =>
      rw [outcome_readReply, if_pos hstatus, outcome_readBad_of_none]
      rcases hread with hread | ⟨v, hread, hne | herror⟩
      · exact .inl hread
      · exact .inr ⟨v, hread, Value.isTruthy_field_of_ne_map hne "error"⟩
      · exact .inr ⟨v, hread, herror⟩
  | malformed hstatus hread =>
      rw [outcome_readReply, if_neg hstatus, readGood, outcome_content_bind_of_malformed hread]
      rfl
  | result hstatus hread herror =>
      rw [outcome_readReply, if_neg hstatus]
      exact outcome_readGood_eq_ok_iff.mpr ⟨_, hread, herror, rfl⟩
  | @misshapen status body v hread hshape =>
      -- a truthy error is no map, or else the status is good and there is no map at all
      by_cases herror : (v.field "error").isTruthy = true
      · obtain ⟨es, rfl⟩ := Value.exists_map_of_isTruthy herror
        have hne : ∀ fault, (Value.map es).field "error" ≠ .map fault := fun fault hfault =>
          hshape ⟨fun _ => ⟨es, rfl⟩, fun _ => ⟨fault, hfault⟩⟩
        rw [outcome_readReply, outcome_readBad_of_error hread herror, outcome_readGood_of_error hread herror, ite_self,
          faultOf_of_ne_map hne]
      · have hne : isGood status = true ∧ ∀ es, v ≠ .map es := by
          by_contra hmap
          refine hshape ⟨fun hgood => ?_, fun h => absurd h herror⟩
          by_contra hnone
          exact hmap ⟨hgood, not_exists.mp hnone⟩
        rw [outcome_readReply, if_neg (isGood_iff.mp hne.1), outcome_readGood_of_ne_map hread hne.2]
  | tooDeep hread hdeep =>
      rw [outcome_readReply, readBad, readGood, outcome_content_bind_of_deep hread hdeep,
        outcome_content_bind_of_deep hread hdeep, ite_self]

theorem exists_gives (depth : Nat) (reply : Reply) : ∃ out, reply.Gives depth out := by
  cases reply with
  | unreachable reason => exact ⟨_, .unreachable reason⟩
  | answered status body =>
      cases hread : Json.read depth body with
      | error fault =>
          by_cases hdeep : fault = .malformed
          · subst hdeep
            by_cases hstatus : 400 ≤ status ∧ status < 600
            · exact ⟨_, .bad hstatus (.inl hread)⟩
            · exact ⟨_, .malformed hstatus hread⟩
          · exact ⟨_, .tooDeep hread hdeep⟩
      | ok v =>
          by_cases hshape : v.IsAnswer (isGood status)
          · by_cases herror : (v.field "error").isTruthy = true
            · obtain ⟨es, rfl⟩ := Value.exists_map_of_isTruthy herror
              obtain ⟨fault, hfault⟩ := hshape.2 herror
              refine ⟨_, .refused hread hfault ?_⟩
              rintro rfl
              rw [hfault] at herror
              cases herror
            · have hfalse := Bool.eq_false_of_not_eq_true herror
              by_cases hstatus : 400 ≤ status ∧ status < 600
              · exact ⟨_, .bad hstatus (.inr ⟨v, hread, .inr hfalse⟩)⟩
              · obtain ⟨es, rfl⟩ := hshape.1 (isGood_iff.mpr hstatus)
                exact ⟨_, .result hstatus hread hfalse⟩
          · exact ⟨_, .misshapen hread hshape⟩

theorem outcome_eq_iff_gives : (readReply depth url reply).outcome = out ↔ reply.Gives depth out := by
  refine ⟨?_, Gives.outcome_eq⟩
  rintro rfl
  obtain ⟨out, h⟩ := reply.exists_gives depth
  rwa [h.outcome_eq]

end Reply

namespace Session

theorem outcomes_makeCalls (s : Session) (client : Client) (n : Nat) (calls : List Call) :
    (s.makeCalls client n calls).1 =
      calls.mapIdx fun i c => (client.call s.platform.replyDepth c.method c.params (s.reply (n + i))).outcome := by
  induction calls generalizing n with
  | nil => rfl
  | cons c calls ih =>
      rw [makeCalls, List.mapIdx_cons]
      dsimp only
      rw [ih]
      simp only [Nat.add_zero, Nat.add_assoc, Nat.add_comm 1]

theorem posts_makeCalls (s : Session) (client : Client) (n : Nat) (calls : List Call) (hurl : client.url? = some url) :
    (s.makeCalls client n calls).2.filterMap Event.post? =
      calls.map fun c => client.request url c.method (if c.params.isTruthy then c.params else .list []) := by
  induction calls generalizing n with
  | nil => rfl
  | cons c calls ih =>
      have hpost : (client.call s.platform.replyDepth c.method c.params (s.reply n)).posts =
          [client.request url c.method (if c.params.isTruthy then c.params else .list [])] := Client.posts_call hurl
      rw [makeCalls, List.map_cons, List.filterMap_append, ih, ← Report.posts, hpost]
      rfl

theorem posts_makeCalls_of_unwritable (s : Session) (client : Client) (n : Nat) (calls : List Call)
    (hurl : client.url? = none) : (s.makeCalls client n calls).2.filterMap Event.post? = [] := by
  induction calls generalizing n with
  | nil => rfl
  | cons c calls ih =>
      have hpost : (client.call s.platform.replyDepth c.method c.params (s.reply n)).posts = [] :=
        Client.posts_call_of_unwritable hurl
      rw [makeCalls, List.filterMap_append, ih, ← Report.posts, hpost]
      rfl

theorem reply_afterPosts (s : Session) (posts : List Post) (n : Nat) :
    (s.afterPosts posts).reply n = s.reply (posts.length + n) := by
  simp [reply, afterPosts, List.getD_eq_getElem?_getD]

theorem step_call (hclient : s.clientOf source = .ok client) :
    s.step (.call source calls) =
      (⟨.ok (.calls (s.makeCalls client 0 calls).1), (s.makeCalls client 0 calls).2⟩,
        s.afterPosts ((s.makeCalls client 0 calls).2.filterMap Event.post?)) := by
  rw [step, hclient]

end Session

/-- Every call of a client makes one request, in their order, and comes to what the reply in its place gives, which
leaves the later replies to the later calls. Without a URL none is made. -/
theorem calls_take_replies_in_turn (s : Session) (source : ClientSource) (client : Client) (calls : List Call)
    (hclient : s.clientOf source = .ok client) :
    ∃ outcomes, (s.step (.call source calls)).1.outcome = .ok (.calls outcomes) ∧ outcomes.length = calls.length ∧
      (∀ url, client.url? = some url →
        (s.step (.call source calls)).1.posts = calls.map (fun c =>
            ⟨url, c.method, if c.params.isTruthy then c.params else .list [], client.user, client.password,
              client.timeout⟩) ∧
          (∀ i, i < calls.length → ∀ out, outcomes[i]? = some out ↔ (s.reply i).Gives s.platform.replyDepth out) ∧
          ∀ n, (s.step (.call source calls)).2.reply n = s.reply (calls.length + n)) ∧
      (client.url? = none →
        (s.step (.call source calls)).1.posts = [] ∧ (∀ out ∈ outcomes, out = .error .unwritable) ∧
          ∀ n, (s.step (.call source calls)).2.reply n = s.reply n) := by
  rw [Session.step_call hclient]
  refine ⟨_, rfl, ?_, fun url hurl => ?_, fun hurl => ?_⟩
  · rw [Session.outcomes_makeCalls, List.length_mapIdx]
  · have hposts := s.posts_makeCalls client 0 calls hurl
    refine ⟨hposts, fun i hi out => ?_, fun n => ?_⟩
    · rw [← Reply.outcome_eq_iff_gives, Session.outcomes_makeCalls, List.getElem?_mapIdx, List.getElem?_eq_getElem hi,
        Option.map_some, Option.some.injEq, Client.outcome_call hurl, Nat.zero_add]
    · rw [Session.reply_afterPosts, hposts, List.length_map]
  · have hposts := s.posts_makeCalls_of_unwritable client 0 calls hurl
    refine ⟨hposts, fun out hout => ?_, fun n => ?_⟩
    · rw [Session.outcomes_makeCalls, List.mem_mapIdx] at hout
      obtain ⟨i, hi, rfl⟩ := hout
      exact Client.outcome_call_of_unwritable hurl
    · rw [Session.reply_afterPosts, hposts, List.length_nil, Nat.zero_add]

def sampleClient : Client := { url? := some "http://127.0.0.1:14022", user := .text "u", password := .text "p" }

theorem calls_take_replies_in_turn_sample :
    ∃ outcomes, (Session.step
        { defaultPath := "default.yaml"
          replies := [.answered 500 "\x7b\"error\": \x7b\"code\": -5\x7d\x7d", .answered 404 "<html>",
            .answered 200 "\x7b\"result\": true\x7d"] }
        (.call (.given sampleClient) [⟨"a", .null⟩, ⟨"b", .null⟩, ⟨"c", .null⟩, ⟨"d", .null⟩])).1.outcome =
          .ok (.calls outcomes) ∧
      outcomes[0]? = some (.error (.node (.refused (.int (-5)) (.text "unknown")))) ∧
      outcomes[1]? = some (.error (.node (.ofStatus 404))) ∧ outcomes[2]? = some (.ok (.bool true)) ∧
      outcomes[3]? = some (.error (.node (.transport NodeFault.unreachableMessage none))) := by
  obtain ⟨outcomes, hstep, -, hcalls, -⟩ := calls_take_replies_in_turn
    { defaultPath := "default.yaml"
      replies := [.answered 500 "\x7b\"error\": \x7b\"code\": -5\x7d\x7d", .answered 404 "<html>",
        .answered 200 "\x7b\"result\": true\x7d"] }
    (.given sampleClient) sampleClient [⟨"a", .null⟩, ⟨"b", .null⟩, ⟨"c", .null⟩, ⟨"d", .null⟩] rfl
  obtain ⟨-, hgives, -⟩ := hcalls _ rfl
  refine ⟨outcomes, hstep, (hgives 0 (by decide) _).mpr ?_, (hgives 1 (by decide) _).mpr ?_,
    (hgives 2 (by decide) _).mpr ?_, (hgives 3 (by decide) _).mpr (.unreachable _)⟩
  · exact @Reply.Gives.refused _ 500 _ _ [(.text "code", .int (-5))] rfl rfl (by simp)
  · exact .bad (by decide) (.inl rfl)
  · exact @Reply.Gives.result _ 200 _ [(.text "result", .bool true)] (by decide) rfl rfl

/-- A body that only opens lists is no data at all, but it is not told as such where so many lists are too deep. -/
theorem unclosed_lists_are_not_told :
    (sampleClient.call ({} : Platform).replyDepth "getblockchaininfo" .null
        (.answered 200 (String.ofList (List.replicate 1500 '[')))).outcome = .error (.tooDeep .deepList) ∧
      ∀ depth < 1500, (sampleClient.call depth "getblockchaininfo" .null
        (.answered 200 (String.ofList (List.replicate 1500 '[')))).outcome = .error (.tooDeep .deepList) := by
  have htold : ∀ depth < 1500, (sampleClient.call depth "getblockchaininfo" .null
      (.answered 200 (String.ofList (List.replicate 1500 '[')))).outcome = .error (.tooDeep .deepList) := by
    intro depth hdepth
    have hread := Json.read_brackets hdepth []
    rw [List.append_nil] at hread
    rw [Client.outcome_call rfl, Reply.outcome_eq_iff_gives]
    exact .tooDeep hread (by decide)
  exact ⟨htold _ (by decide), htold⟩

end PaymentUri
