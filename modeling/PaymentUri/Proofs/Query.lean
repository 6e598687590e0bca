import PaymentUri.Proofs.Checklist
import PaymentUri.Proofs.Request

namespace PaymentUri.Checklist

open Check (Obeys first? first?_cons)

variable {p : String × String} {token : List Char}

theorem key_eq_empty_iff : key token = "" ↔ (Text.cut '=' token).1 = [] := by
  rw [key, ← String.toList_inj, String.toList_ofList]
  rfl

theorem readPair_eq (token : List Char) :
    readPair token =
      if token.count '=' ≠ 1 ∨ key token = "" then .error (.malformedPair (String.ofList token))
      else if value? token = none then .error (.notText (key token))
      else .ok (pair token) := by
  simp only [key_eq_empty_iff]
  rw [readPair]
  by_cases hc : token.count '=' = 1
  · rw [Text.split_of_count_eq_one hc]
    by_cases hk : (Text.cut '=' token).1 = []
    · simp only [hk, if_true, or_true]
    · simp only [hk, hc, if_false, ne_eq, not_true_eq_false, or_self]
      cases hv : value? token with
      | none =>
          rw [value?] at hv
          rw [hv]
          rfl
      | some v =>
          rw [pair, hv]
          rw [value?] at hv
          rw [hv]
          rfl
  · rw [if_pos (.inl hc)]
    have hl := Text.length_split '=' token
    split
    next hs =>
      simp only [hs, List.length_cons, List.length_nil] at hl
      omega
    next => rfl

theorem readPair_obeys (token : List Char) :
    Obeys (tokenChecks token) (pair token) (readPair token) := by
  rw [readPair_eq, tokenChecks]
  iterate 2 refine .guard rfl rfl fun _ => ?_
  exact .pure _

theorem mapM_readPair_obeys (tokens : List (List Char)) :
    Obeys (tokens.flatMap tokenChecks) (tokens.map pair) (tokens.mapM readPair) := by
  induction tokens with
  | nil => exact .pure _
  | cons token tokens ih =>
      rw [List.mapM_cons, List.flatMap_cons]
      refine (readPair_obeys token).bind fun _ => ?_
      rw [bind_pure_comp]
      exact ih.map _

theorem readPairs_eq (query : List Char) : readPairs query = (tokens query).mapM readPair := by
  rw [readPairs, tokens]
  split <;> rfl

theorem readAmount_obeys (value : String) :
    Obeys [⟨¬isAmount value, .invalidAmount, some "amount"⟩] (unitsOf value) (readAmount value) := by
  rw [readAmount]
  split
  next h =>
    subst h
    exact .failed _ (by decide)
  next =>
    cases hp : Amount.parse value with
    | error cause => exact .failed _ (by simp [first?_cons, isAmount, hp, Rejection.kind, Rejection.field])
    | ok n =>
        by_cases hn : n < 0
        · simp only [if_pos hn]
          exact .failed _ (by simp [first?_cons, isAmount, hp, hn, Rejection.kind, Rejection.field])
        · simp only [if_neg hn, unitsOf, hp]
          exact .passed (by simpa [first?, isAmount, hp] using hn)

theorem not_required_of_reserved {key : String} (h : key ∈ reservedKeys) :
    ¬requiredMark.toList <+: key.toList := by
  revert key
  decide

theorem read_field_obeys (p : String × String) :
    Obeys (pairChecks p) (fieldOf p) (Field.read p.1 p.2) := by
  obtain ⟨key, value⟩ := p
  rw [pairChecks, fieldOf, Field.read]
  refine .guard rfl rfl fun _ => ?_
  by_cases hamount : key = "amount"
  · rw [if_pos hamount, if_pos hamount]
    refine ((readAmount_obeys value).map Field.amount).congr ?_
    simp only [first?_cons, hamount, true_and]
    rfl
  by_cases hdisplay : key = "label" ∨ key = "message"
  · have hr : ¬requiredMark.toList <+: key.toList :=
      not_required_of_reserved (by rcases hdisplay with rfl | rfl <;> decide)
    have hc : first? [⟨value = "", .emptyFieldValue, some key⟩] =
        first? [⟨key = "amount" ∧ ¬isAmount value, .invalidAmount, some "amount"⟩,
          ⟨(key = "label" ∨ key = "message") ∧ value = "", .emptyFieldValue, some key⟩,
          ⟨requiredMark.toList <+: key.toList, .unrecognizedRequiredField, some key⟩] := by
      simp [first?_cons, hamount, hdisplay, hr]
    rcases hdisplay with hk | hk
    · simp only [if_neg hamount, if_pos hk]
      exact .congr hc (.guard rfl rfl fun _ => .pure _)
    · have hl : key ≠ "label" := by rw [hk]; decide
      simp only [if_neg hamount, if_neg hl, if_pos hk]
      exact .congr hc (.guard rfl rfl fun _ => .pure _)
  · obtain ⟨hlabel, hmessage⟩ := not_or.mp hdisplay
    have hv : Obeys [⟨requiredMark.toList <+: key.toList, .unrecognizedRequiredField, some key⟩]
        (Field.extra key value)
        (if isRequiredKey key then .error (.requiredField key) else .ok (.extra key value)) := by
      simp only [isRequiredKey, List.isPrefixOf_iff_prefix]
      exact .guard rfl rfl fun _ => .pure _
    simp only [if_neg hamount, if_neg hlabel, if_neg hmessage]
    exact hv.congr (by simp [first?_cons, hamount, hlabel, hmessage])

theorem ne_address_of_passed (h : first? (pairChecks p) = none) : p.1 ≠ "address" := by
  intro ha
  simp [pairChecks, first?_cons, ha] at h

variable {whom : Payee} {seen : List String} {rest : List (String × String)}

/-- After any number of pairs the request is the one that they make, repeated keys checked but
without effect. -/
theorem addPairs_obeys (done : List (String × String)) (hseen : ∀ k, k ∈ seen ↔ k ∈ done.map Prod.fst) :
    Obeys (rest.flatMap pairChecks) (.ofPairs whom (done ++ rest))
      (addPairs (.ofPairs whom done) seen rest).outcome := by
  induction rest generalizing seen done with
  | nil =>
      rw [List.append_nil]
      exact .pure _
  | cons p rest ih =>
      obtain ⟨key, value⟩ := p
      rw [addPairs, Report.outcome_bind, Report.outcome_ofExcept, List.flatMap_cons]
      refine (read_field_obeys (key, value)).bind fun hpassed => ?_
      rw [List.append_cons]
      split
      next hk =>
        have hd : key ∈ done.map Prod.fst := (hseen key).mp hk
        have hs : ∀ k, k ∈ seen ↔ k ∈ (done ++ [(key, value)]).map Prod.fst := by
          intro k
          rw [hseen, List.map_append, List.mem_append]
          constructor
          · exact .inl
          · rintro (h | h)
            · exact h
            · rwa [List.mem_singleton.mp h]
        have hr : PaymentRequest.ofPairs whom (done ++ [(key, value)]) = .ofPairs whom done :=
          PaymentRequest.ofPairs_concat_of_mem hd
        rw [Report.outcome_log_bind, ← hr]
        exact ih _ hs
      next hk =>
        have hd : key ∉ done.map Prod.fst := mt (hseen key).mpr hk
        have hs : ∀ k, k ∈ key :: seen ↔ k ∈ (done ++ [(key, value)]).map Prod.fst := by
          intro k
          rw [List.mem_cons, hseen, List.map_append, List.mem_append, List.map_singleton,
            List.mem_singleton, or_comm]
        rw [← PaymentRequest.ofPairs_concat hd (ne_address_of_passed hpassed)]
        exact ih _ hs

theorem parseUri_outcome (network : Network) (text : String) (resolve : Resolver) :
    (parseUri network text resolve).outcome = (readUri resolve network text).outcome := by
  rw [parseUri]
  split
  next => rfl
  next => rfl

theorem resolve_obeys (resolve : Resolver) (network : Network) (text : String) :
    Obeys [resolverCheck resolve network text] (payee resolve network text)
      ((resolve network (String.ofList (address text))).outcome.mapError .badAddress) := by
  rw [resolverCheck, payee]
  cases (resolve network (String.ofList (address text))).outcome with
  | ok payee => exact .passed rfl
  | error cause => exact .failed _ rfl

theorem parseUri_obeys (network : Network) (text : String) (resolve : Resolver) :
    Obeys (uriChecks resolve network text)
      (.ofPairs (payee resolve network text) (pairs text))
      (parseUri network text resolve).outcome := by
  rw [parseUri_outcome, readUri, uriChecks, List.append_assoc, List.append_assoc,
    Report.outcome_bind, Report.outcome_ofExcept]
  refine (read_obeys network.scheme text).bind fun _ => ?_
  rw [Report.outcome_bind, Report.outcome_mapError]
  refine (resolve_obeys resolve network text).bind fun _ => ?_
  rw [Report.outcome_bind, Report.outcome_ofExcept, readPairs_eq]
  refine (mapM_readPair_obeys _).bind fun _ => ?_
  exact addPairs_obeys [] fun _ => Iff.rfl

end PaymentUri.Checklist
