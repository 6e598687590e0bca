import PaymentUri.Proofs.Canonical

namespace PaymentUri.Checklist

open Check (first?)

/-- Reading ends in a request, which its constructor accepts as it is, when no check fails, and
otherwise in the kind and the place that belong to the first check that fails. -/
theorem parseUri_reports_first_fault (network : Network) (text : String) (resolve : Resolver) :
    match (parseUri network text resolve).outcome with
    | .ok r =>
        first? (uriChecks resolve network text) = none ∧
          PaymentRequest.make (some r.payee) r.amount r.label r.message r.extras = .ok r
    | .error e => first? (uriChecks resolve network text) = some (e.kind, e.field) := by
  have hobeys := parseUri_obeys network text resolve
  split
  next r hr =>
    rw [hr] at hobeys
    cases hobeys with
    | passed hnone => exact ⟨hnone, PaymentRequest.make_of_canonical (PaymentRequest.canonical_of_outcome hr)⟩
  next e he =>
    rw [he] at hobeys
    cases hobeys with
    | failed _ hfirst => exact hfirst

-- A token that is no pair is found before the key of an earlier one is looked at.
example :
    first? (uriChecks (fun _ s => pure (.text s)) .mainnet "digibyte:D?address=1&x") =
      some (.malformedPair, none) := by
  decide

end PaymentUri.Checklist
