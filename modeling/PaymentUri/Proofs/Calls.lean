import PaymentUri.Proofs.Stages

namespace PaymentUri

variable {client : Client} {url method body text : String} {params v : Value} {content : Option Value}
  {status : Int} {reply : Reply} {depth : Nat}

/-- A reply with a result: its status is good, and its body is a map without an error. -/
def Reply.HasResult (depth : Nat) (reply : Reply) (v : Value) : Prop :=
  ∃ status body entries, reply = .answered status body ∧ Client.isGood status = true ∧
    Json.read depth body = .ok (.map entries) ∧ (Value.field (.map entries) "error").isTruthy = false ∧
      Value.field (.map entries) "result" = v

namespace Client

def request (client : Client) (url method : String) (params : Value) : Post :=
  ⟨url, method, params, client.user, client.password, client.timeout⟩

theorem posts_content (depth : Nat) (body : String) : (Client.content depth body).posts = [] := by
  rw [Client.content]
  split <;> rfl

theorem outcome_content_eq_ok_iff :
    (Client.content depth body).outcome = .ok content ↔
      (∃ v, Json.read depth body = .ok v ∧ content = some v) ∨
        Json.read depth body = .error .malformed ∧ content = none := by
  rw [Client.content]
  split
  next v hv =>
    rw [hv]
    constructor
    · intro h
      cases h
      exact .inl ⟨v, rfl, rfl⟩
    · rintro (⟨w, hw, rfl⟩ | ⟨hw, -⟩)
      · cases hw
        rfl
      · cases hw
  next hv =>
    rw [hv]
    constructor
    · intro h
      cases h
      exact .inr ⟨rfl, rfl⟩
    · rintro (⟨w, hw, -⟩ | ⟨-, rfl⟩)
      · cases hw
      · rfl
  next fault hne hv =>
    rw [hv]
    constructor
    · intro h
      cases h
    · rintro (⟨w, hw, -⟩ | ⟨hw, -⟩)
      · cases hw
      · cases hw
        exact absurd rfl hne

theorem outcome_readGood_eq_ok_iff :
    (readGood depth body).outcome = .ok v ↔
      ∃ entries, Json.read depth body = .ok (.map entries) ∧
        (Value.field (.map entries) "error").isTruthy = false ∧ Value.field (.map entries) "result" = v := by
  rw [readGood, Report.outcome_bind, bind_eq_ok_iff]
  constructor
  · rintro ⟨content, hcontent, h⟩
    split at h
    next => cases h
    next entries =>
      rcases outcome_content_eq_ok_iff.mp hcontent with ⟨w, hw, hsome⟩ | ⟨-, hnone⟩
      · cases hsome
        dsimp only at h
        split at h
        next => cases h
        next herror =>
          cases h
          exact ⟨entries, hw, Bool.eq_false_of_not_eq_true herror, rfl⟩
      · cases hnone
    next => cases h
  · rintro ⟨entries, hread, herror, rfl⟩
    refine ⟨_, outcome_content_eq_ok_iff.mpr (.inl ⟨_, hread, rfl⟩), ?_⟩
    dsimp only
    rw [herror]
    rfl

theorem outcome_readBad_ne_ok (v : Value) : (readBad depth url status body).outcome ≠ .ok v := by
  rw [readBad, Report.outcome_bind]
  intro h
  obtain ⟨content, -, h⟩ := bind_eq_ok_iff.mp h
  split at h
  next error _ =>
    rw [faultOf.eq_def] at h
    split at h <;> cases h
  next => cases h

theorem outcome_readReply_eq_ok_iff :
    (readReply depth url reply).outcome = .ok v ↔ reply.HasResult depth v := by
  cases reply with
  | unreachable reason =>
      constructor
      · intro h
        cases h
      · rintro ⟨status, body, entries, hreply, -⟩
        cases hreply
  | answered status body =>
      rw [readReply]
      split
      next hgood =>
        rw [outcome_readGood_eq_ok_iff]
        constructor
        · rintro ⟨entries, h⟩
          exact ⟨status, body, entries, rfl, hgood, h⟩
        · rintro ⟨_, _, entries, hreply, -, h⟩
          cases hreply
          exact ⟨entries, h⟩
      next hbad =>
        constructor
        · intro h
          exact absurd h (outcome_readBad_ne_ok v)
        · rintro ⟨_, _, entries, hreply, hgood, -⟩
          cases hreply
          exact absurd hgood hbad

theorem posts_readGood (depth : Nat) (body : String) : (readGood depth body).posts = [] := by
  rw [readGood, Report.posts_bind, posts_content]
  split
  next content _ =>
    split
    next => rfl
    next =>
      dsimp only
      split <;> rfl
    next => rfl
  next => rfl

theorem posts_readBad (depth : Nat) (url : String) (status : Int) (body : String) :
    (readBad depth url status body).posts = [] := by
  rw [readBad, Report.posts_bind, posts_content]
  split
  next =>
    split
    next => rfl
    next => rfl
  next => rfl

theorem posts_readReply (depth : Nat) (url : String) (reply : Reply) : (readReply depth url reply).posts = [] := by
  cases reply with
  | unreachable reason => rfl
  | answered status body =>
      rw [readReply]
      split
      next => exact posts_readGood depth body
      next => exact posts_readBad depth url status body

theorem posts_call (hurl : client.url? = some url) :
    (client.call depth method params reply).posts =
      [client.request url method (if params.isTruthy then params else .list [])] := by
  rw [call, Report.posts_log_bind, hurl]
  dsimp only
  rw [Report.posts_bind]
  change [_] ++ (readReply depth url reply).posts = _
  rw [posts_readReply]
  rfl

theorem outcome_call (hurl : client.url? = some url) :
    (client.call depth method params reply).outcome = (readReply depth url reply).outcome := by
  rw [call, Report.outcome_log_bind, hurl]
  dsimp only
  rw [Report.outcome_bind]
  rfl

theorem outcome_call_of_unwritable (hurl : client.url? = none) :
    (client.call depth method params reply).outcome = .error .unwritable := by
  rw [call, Report.outcome_log_bind, hurl]
  rfl

theorem outcome_call_eq_ok_iff :
    (client.call depth method params reply).outcome = .ok v ↔
      (∃ url, client.url? = some url) ∧ reply.HasResult depth v := by
  cases hurl : client.url? with
  | none =>
      rw [outcome_call_of_unwritable hurl]
      simp
  | some url =>
      rw [outcome_call hurl, outcome_readReply_eq_ok_iff]
      exact (and_iff_right ⟨url, rfl⟩).symm

theorem posts_call_of_unwritable (hurl : client.url? = none) :
    (client.call depth method params reply).posts = [] := by
  rw [call, Report.posts_log_bind, hurl]
  rfl

theorem posts_chainInfo (hurl : client.url? = some url) :
    (client.chainInfo depth reply).posts = [client.request url "getblockchaininfo" (.list [])] :=
  posts_call hurl

theorem posts_validateAddress (hurl : client.url? = some url) :
    (client.validateAddress depth text reply).posts =
      [client.request url "validateaddress" (.list [.text text])] :=
  posts_call hurl

end Client

end PaymentUri
