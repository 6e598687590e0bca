import PaymentUri.Proofs.Calls
import PaymentUri.Proofs.RoundTrip

namespace PaymentUri

variable {network : Network} {text : String} {ask : String → Report NodeFault Value} {next : Resolver}
  {v : Value}

/-- A node confirms an address with a map that says so; errors and other answers do not. -/
def Confirms (answer : Except NodeFault Value) : Prop :=
  ∃ entries, answer = .ok (.map entries) ∧ (Value.field (.map entries) "isvalid").isTruthy = true

theorem isConfirmed_iff :
    isConfirmed v = true ↔
      ∃ entries, v = .map entries ∧ (Value.field (.map entries) "isvalid").isTruthy = true := by
  rw [isConfirmed.eq_def]
  split
  next entries =>
    constructor
    · intro h
      exact ⟨entries, rfl, h⟩
    · rintro ⟨_, hv, h⟩
      cases hv
      exact h
  next hne =>
    constructor
    · intro h
      cases h
    · rintro ⟨entries, hv, -⟩
      exact absurd hv (hne entries)

theorem confirms_ok_iff : Confirms (.ok v) ↔ isConfirmed v = true := by
  rw [isConfirmed_iff]
  simp [Confirms]

theorem outcome_viaNode (h : Confirms (ask text).outcome) :
    (viaNode ask next network text).outcome = (next network text).outcome := by
  rw [viaNode]
  cases hanswer : (ask text).outcome with
  | error fault =>
      obtain ⟨entries, hentries, -⟩ := h
      rw [hanswer] at hentries
      cases hentries
  | ok v =>
      rw [hanswer, confirms_ok_iff] at h
      dsimp only
      rw [if_pos h]

theorem exists_viaNode_error (h : ¬Confirms (ask text).outcome) :
    ∃ cause, (viaNode ask next network text).outcome = .error cause := by
  rw [viaNode]
  cases hanswer : (ask text).outcome with
  | error fault => exact ⟨_, rfl⟩
  | ok v =>
      rw [hanswer, confirms_ok_iff] at h
      dsimp only
      rw [if_neg h]
      exact ⟨_, rfl⟩

theorem posts_viaNode (hnext : (next network text).posts = []) :
    (viaNode ask next network text).posts = (ask text).posts := by
  rw [viaNode]
  split
  next =>
    rw [Report.posts, List.filterMap_append]
    exact List.append_nil _
  next =>
    split
    next =>
      rw [Report.posts, List.filterMap_append]
      exact (congrArg _ hnext).trans (List.append_nil _)
    next => rfl

theorem parseUri_viaNode_of_confirms (h : Confirms (ask (String.ofList (Checklist.address text))).outcome) :
    (parseUri network text (viaNode ask next)).outcome = (parseUri network text next).outcome := by
  cases hread : Draft.read network.scheme text with
  | error rejection => rw [parseUri_of_read_error hread, parseUri_of_read_error hread]
  | ok draft =>
      obtain ⟨-, rfl⟩ := (Checklist.read_obeys network.scheme text).eq_ok_iff.mp hread
      exact parseUri_congr hread (outcome_viaNode h)

theorem confirms_of_outcome {r : PaymentRequest}
    (h : (parseUri network text (viaNode ask next)).outcome = .ok r) :
    Confirms (ask (String.ofList (Checklist.address text))).outcome := by
  obtain ⟨draft, payee, hread, hpayee⟩ := exists_draft_of_outcome h
  obtain ⟨-, rfl⟩ := (Checklist.read_obeys network.scheme text).eq_ok_iff.mp hread
  by_contra hrefused
  obtain ⟨cause, hcause⟩ : ∃ cause,
      (viaNode ask next network (String.ofList (Checklist.address text))).outcome = .error cause :=
    exists_viaNode_error hrefused
  rw [hpayee] at hcause
  cases hcause

open Checklist in
/-- A node can only narrow what is accepted offline. It is asked once, about the very address of a text
that passes the checks before, and then its confirmation leaves the outcome as it is without a node;
whatever else it answers is told as a bad address. -/
theorem parseUri_viaNode_narrows (network : Network) (text : String) (client : Client) (url : String)
    (ask : String → Report NodeFault Value)
    (hask : ∀ t, (ask t).posts = [client.request url "validateaddress" (.list [.text t])]) :
    (Check.first? (textChecks network.scheme text) ≠ none →
      (∃ e, (parseUri network text).outcome = .error e) ∧
        (parseUri network text (viaNode ask offline)).outcome = (parseUri network text).outcome ∧
          (parseUri network text (viaNode ask offline)).posts = []) ∧
      (Check.first? (textChecks network.scheme text) = none →
        (parseUri network text (viaNode ask offline)).posts =
            [client.request url "validateaddress" (.list [.text (String.ofList (address text))])] ∧
          (Confirms (ask (String.ofList (address text))).outcome →
            (parseUri network text (viaNode ask offline)).outcome = (parseUri network text).outcome) ∧
          (¬Confirms (ask (String.ofList (address text))).outcome →
            ∃ e, (parseUri network text (viaNode ask offline)).outcome = .error e ∧
              e.kind = .badAddress ∧ e.field = some "address")) := by
  constructor
  · intro hfailed
    obtain ⟨rejection, hread⟩ := exists_read_error hfailed
    have hoffline : (parseUri network text).outcome = .error rejection := parseUri_of_read_error hread
    refine ⟨⟨rejection, hoffline⟩, ?_, ?_⟩
    · rw [hoffline, parseUri_of_read_error hread]
    · rw [posts_parseUri, hread]
  · intro hpassed
    have hread := read_eq_ok_of_passed hpassed
    refine ⟨?_, parseUri_viaNode_of_confirms, ?_⟩
    · rw [posts_parseUri, hread]
      exact (posts_viaNode rfl).trans (hask _)
    · intro hrefused
      obtain ⟨cause, hcause⟩ := exists_viaNode_error hrefused
      exact ⟨_, parseUri_of_resolve_error hread hcause, rfl, rfl⟩

theorem parseUri_viaNode_narrows_sample :
    ∃ answer : String → Report NodeFault Value,
      (parseUri .mainnet "digibyte:DCxTHiSxiSxTHExSTUFFzzzzzzzzbSG1oo?amount=2"
          (viaNode answer offline)).posts =
        [⟨"http://node:14022", "validateaddress", .list [.text "DCxTHiSxiSxTHExSTUFFzzzzzzzzbSG1oo"],
          .text "user", .text "password", .int 30⟩] ∧
      (parseUri .mainnet "digibyte:DCxTHiSxiSxTHExSTUFFzzzzzzzzbSG1oo?amount=2"
          (viaNode answer offline)).outcome =
        (parseUri .mainnet "digibyte:DCxTHiSxiSxTHExSTUFFzzzzzzzzbSG1oo?amount=2").outcome := by
  let client : Client := { url? := some "http://node:14022", user := .text "user", password := .text "password" }
  let answer : String → Report NodeFault Value := fun t =>
    ⟨.ok (.map [(.text "isvalid", .bool true)]),
      [.posted (client.request "http://node:14022" "validateaddress" (.list [.text t]))]⟩
  obtain ⟨hposts, hconfirmed, -⟩ := (parseUri_viaNode_narrows .mainnet
    "digibyte:DCxTHiSxiSxTHExSTUFFzzzzzzzzbSG1oo?amount=2" client "http://node:14022" answer
    fun _ => rfl).2 (by decide +kernel)
  exact ⟨answer, hposts, hconfirmed ⟨_, rfl, rfl⟩⟩

end PaymentUri
