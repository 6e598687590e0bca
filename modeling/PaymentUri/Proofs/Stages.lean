import PaymentUri.Node
import PaymentUri.Proofs.Query

namespace PaymentUri

namespace Report

variable {ε ε' α β : Type}

theorem posts_bind (r : Report ε α) (f : α → Report ε β) :
    (r >>= f).posts = r.posts ++
      match r.outcome with
      | .ok a => (f a).posts
      | .error _ => [] := by
  rw [posts, events_bind, List.filterMap_append]
  cases r.outcome <;> rfl

@[simp]
theorem posts_mapError (f : ε → ε') (r : Report ε α) : (r.mapError f).posts = r.posts := rfl

theorem posts_log_bind (level : Level) (message : String) (f : Unit → Report ε β) :
    (log level message >>= f).posts = (f ()).posts := by
  rw [posts_bind]
  rfl

theorem posts_ofExcept_bind (x : Except ε α) (f : α → Report ε β) :
    (ofExcept x >>= f).posts =
      match x with
      | .ok a => (f a).posts
      | .error _ => [] := by
  rw [posts_bind]
  rfl

theorem bind_assoc {γ : Type} (r : Report ε α) (f : α → Report ε β) (g : β → Report ε γ) :
    (r >>= f) >>= g = r >>= fun a => f a >>= g := by
  obtain ⟨outcome, events⟩ := r
  cases outcome with
  | error e => rfl
  | ok a =>
      change Report.andThen (Report.andThen _ f) g = Report.andThen _ fun a => Report.andThen (f a) g
      simp only [andThen]
      cases (f a).outcome with
      | error e => rfl
      | ok b => simp only [List.append_assoc]

end Report

variable {network : Network} {text : String} {resolve other : Resolver} {draft : Draft}
  {rejection : Rejection} {cause : AddressError}

theorem posts_addPairs (r : PaymentRequest) (seen : List String) (pairs : List (String × String)) :
    (addPairs r seen pairs).posts = [] := by
  induction pairs generalizing r seen with
  | nil => rfl
  | cons p pairs ih =>
      obtain ⟨key, value⟩ := p
      rw [addPairs, Report.posts_ofExcept_bind]
      split
      next field _ =>
        split
        next => rw [Report.posts_log_bind, ih]
        next => exact ih _ _
      next => rfl

theorem posts_parseUri_eq (network : Network) (text : String) (resolve : Resolver) :
    (parseUri network text resolve).posts = (readUri resolve network text).posts := by
  rw [parseUri]
  split
  next => rfl
  next =>
    rw [Report.posts, List.filterMap_append]
    exact List.append_nil _

theorem posts_parseUri (network : Network) (text : String) (resolve : Resolver) :
    (parseUri network text resolve).posts =
      match Draft.read network.scheme text with
      | .ok draft => (resolve network draft.address).posts
      | .error _ => [] := by
  rw [posts_parseUri_eq, readUri, Report.posts_ofExcept_bind]
  cases Draft.read network.scheme text with
  | error rejection => rfl
  | ok draft =>
      dsimp only
      rw [Report.posts_bind, Report.posts_mapError]
      split
      next =>
        rw [Report.posts_ofExcept_bind]
        split
        next => rw [posts_addPairs, List.append_nil]
        next => rw [List.append_nil]
      next => rw [List.append_nil]

theorem outcome_readUri (h : Draft.read network.scheme text = .ok draft) :
    (parseUri network text resolve).outcome =
      (resolve network draft.address).outcome.mapError .badAddress >>= fun payee =>
        readPairs draft.query >>= fun pairs => (addPairs { payee } [] pairs).outcome := by
  rw [Checklist.parseUri_outcome, readUri, h, Report.ofExcept_ok_bind, Report.outcome_bind]
  congr 1
  funext payee
  rw [Report.outcome_bind]
  rfl

/-- A text that is rejected before its address is resolved is rejected whatever the resolver is. -/
theorem parseUri_of_read_error (h : Draft.read network.scheme text = .error rejection) :
    (parseUri network text resolve).outcome = .error rejection := by
  rw [Checklist.parseUri_outcome, readUri, h, Report.outcome_bind]
  rfl

theorem parseUri_of_resolve_error (h : Draft.read network.scheme text = .ok draft)
    (hcause : (resolve network draft.address).outcome = .error cause) :
    (parseUri network text resolve).outcome = .error (.badAddress cause) := by
  rw [outcome_readUri h, hcause]
  rfl

theorem parseUri_congr (h : Draft.read network.scheme text = .ok draft)
    (hsame : (resolve network draft.address).outcome = (other network draft.address).outcome) :
    (parseUri network text resolve).outcome = (parseUri network text other).outcome := by
  rw [outcome_readUri h, outcome_readUri h, hsame]

theorem exists_draft_of_outcome {r : PaymentRequest}
    (h : (parseUri network text resolve).outcome = .ok r) :
    ∃ draft payee, Draft.read network.scheme text = .ok draft ∧
      (resolve network draft.address).outcome = .ok payee := by
  cases hd : Draft.read network.scheme text with
  | error rejection =>
      rw [parseUri_of_read_error hd] at h
      cases h
  | ok draft =>
      cases hr : (resolve network draft.address).outcome with
      | ok payee => exact ⟨draft, payee, rfl, hr⟩
      | error cause =>
          rw [parseUri_of_resolve_error hd hr] at h
          cases h

namespace Checklist

open Check (first?)

theorem read_eq_ok_of_passed (h : first? (textChecks network.scheme text) = none) :
    Draft.read network.scheme text = .ok ⟨String.ofList (address text), query text⟩ :=
  (read_obeys network.scheme text).eq_ok_iff.mpr ⟨Check.first?_eq_none_iff.mp h, rfl⟩

theorem exists_read_error (h : first? (textChecks network.scheme text) ≠ none) :
    ∃ rejection, Draft.read network.scheme text = .error rejection := by
  cases hd : Draft.read network.scheme text with
  | error rejection => exact ⟨rejection, rfl⟩
  | ok draft =>
      obtain ⟨hpassed, -⟩ := (read_obeys network.scheme text).eq_ok_iff.mp hd
      exact absurd (Check.first?_eq_none_iff.mpr hpassed) h

end Checklist

end PaymentUri
