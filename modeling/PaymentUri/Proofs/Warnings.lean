import PaymentUri.Proofs.RoundTrip

namespace PaymentUri

namespace Report

variable {ε α β : Type}

def operational (r : Report ε α) : List LogRecord := r.records.filter fun record => record.level ≠ .debug

theorem operational_bind (r : Report ε α) (f : α → Report ε β) :
    (r >>= f).operational = r.operational ++
      match r.outcome with
      | .ok a => (f a).operational
      | .error _ => [] := by
  rw [operational, records, events_bind, List.filterMap_append, List.filter_append]
  cases r.outcome <;> rfl

theorem operational_warning_bind (message : String) (f : Unit → Report ε β) :
    (log .warning message >>= f).operational = ⟨.warning, message⟩ :: (f ()).operational := by
  rw [operational_bind]
  rfl

theorem operational_ofExcept_bind {cs : List Check} {a : α} {x : Except Rejection α}
    (hx : Check.Obeys cs a x) (f : α → Report Rejection β) :
    (ofExcept x >>= f).operational = if Check.first? cs = none then (f a).operational else [] := by
  rw [operational_bind]
  cases hx with
  | passed h =>
      rw [if_pos h]
      rfl
  | failed e h =>
      rw [h]
      rfl

end Report

/-- The keys that occurred before, one for each time that they occur again. -/
def repetitions (keys : List String) : List String :=
  (keys.zipIdx.filter fun e => e.1 ∈ keys.take e.2).map Prod.fst

@[simp]
theorem repetitions_nil : repetitions [] = [] := rfl

theorem repetitions_concat (keys : List String) (k : String) :
    repetitions (keys ++ [k]) = repetitions keys ++ if k ∈ keys then [k] else [] := by
  have hkeys : keys.zipIdx.filter (fun e => e.1 ∈ (keys ++ [k]).take e.2) =
      keys.zipIdx.filter fun e => e.1 ∈ keys.take e.2 := by
    apply List.filter_congr
    rintro ⟨l, i⟩ hm
    have hi := (List.mem_zipIdx hm).2.1
    rw [List.take_append_of_le_length (by omega)]
  rw [repetitions, List.zipIdx_append, List.filter_append, List.map_append, hkeys, repetitions]
  by_cases hk : k ∈ keys <;> simp [hk]

def repeatedWarning (key : String) : LogRecord :=
  ⟨.warning, "Ignoring repeated '" ++ key ++ "' parameter in payment URI"⟩

namespace Checklist

open Check (first? first?_append first?_eq_none_iff)

variable {r : PaymentRequest} {seen done : List String} {network : Network} {text : String}

def isGood (p : String × String) : Bool := first? (pairChecks p) = none

/-- The pairs of a text that pass the checks of what they say, up to the first that does not. There
are none in a text that is rejected before its keys are looked at. -/
def goodPairs (network : Network) (text : String) : List (String × String) :=
  if first? (textChecks network.scheme text ++ [resolverCheck offline network text] ++
      (tokens (query text)).flatMap tokenChecks) = none
  then (pairs text).takeWhile isGood
  else []

/-- While pairs are added there is one warning for each repeated key, until a pair is rejected. -/
theorem operational_addPairs (rest : List (String × String)) (hseen : ∀ k, k ∈ seen ↔ k ∈ done) :
    (repetitions done).map repeatedWarning ++ (addPairs r seen rest).operational =
      (repetitions (done ++ (rest.takeWhile isGood).map Prod.fst)).map repeatedWarning := by
  induction rest generalizing r seen done with
  | nil =>
      rw [List.takeWhile_nil, List.map_nil, List.append_nil]
      exact List.append_nil _
  | cons p rest ih =>
      obtain ⟨key, value⟩ := p
      rw [addPairs, Report.operational_ofExcept_bind (read_field_obeys (key, value))]
      by_cases hgood : first? (pairChecks (key, value)) = none
      · have hkey : isGood (key, value) = true := decide_eq_true hgood
        rw [if_pos hgood, List.takeWhile_cons_of_pos hkey, List.map_cons, List.append_cons]
        split
        next hk =>
          have hd : key ∈ done := (hseen key).mp hk
          have hs : ∀ k, k ∈ seen ↔ k ∈ done ++ [key] := by
            intro k
            rw [hseen, List.mem_append, List.mem_singleton]
            exact ⟨.inl, fun h => h.elim id fun h => h ▸ hd⟩
          rw [← ih (r := r) hs, repetitions_concat, if_pos hd, Report.operational_warning_bind]
          simp [repeatedWarning]
        next hk =>
          have hd : key ∉ done := mt (hseen key).mpr hk
          have hs : ∀ k, k ∈ key :: seen ↔ k ∈ done ++ [key] := by
            intro k
            rw [List.mem_cons, hseen, List.mem_append, List.mem_singleton, or_comm]
          rw [← ih hs, repetitions_concat, if_neg hd, List.append_nil]
      · have hkey : ¬isGood (key, value) = true := by simpa [isGood] using hgood
        rw [if_neg hgood, List.takeWhile_cons_of_neg hkey, List.map_nil, List.append_nil, List.append_nil]

theorem operational_readUri (network : Network) (text : String) :
    (readUri offline network text).operational =
      (repetitions ((goodPairs network text).map Prod.fst)).map repeatedWarning := by
  have hresolve : (offline network (String.ofList (address text))).mapError Rejection.badAddress =
      .ofExcept ((offline network (String.ofList (address text))).outcome.mapError .badAddress) := rfl
  rw [readUri, Report.operational_ofExcept_bind (read_obeys network.scheme text), hresolve,
    Report.operational_ofExcept_bind (resolve_obeys offline network text), readPairs_eq,
    Report.operational_ofExcept_bind (mapM_readPair_obeys _), goodPairs]
  simp only [first?_append, Option.or_eq_none_iff, ite_and]
  split_ifs
  · have hnone : ∀ k : String, k ∈ [] ↔ k ∈ [] := fun _ => Iff.rfl
    have hrun := operational_addPairs (r := { payee := payee offline network text }) (pairs text) hnone
    simpa [pairs] using hrun
  all_goals rfl

theorem operational_parseUri (network : Network) (text : String) (resolve : Resolver) :
    (parseUri network text resolve).operational = (readUri resolve network text).operational := by
  rw [parseUri]
  split
  next => rfl
  next => simp [Report.operational, Report.records, Event.record?]

theorem goodPairs_of_outcome (h : (parseUri network text).outcome = .ok r) :
    goodPairs network text = pairs text := by
  obtain ⟨hpassed, -⟩ := (parseUri_obeys network text offline).eq_ok_iff.mp h
  rw [← first?_eq_none_iff, uriChecks, first?_append, Option.or_eq_none_iff] at hpassed
  obtain ⟨hbefore, hpairs⟩ := hpassed
  rw [goodPairs, if_pos hbefore, List.takeWhile_eq_self_iff]
  intro p hp
  rw [first?_eq_none_iff] at hpairs
  exact decide_eq_true (first?_eq_none_iff.mpr fun c hc => hpairs c (List.mem_flatMap.mpr ⟨p, hp, hc⟩))

/-- Above the level of debugging, reading logs one warning for each good pair whose key occurred
before, and nothing else. For a text that is accepted the log depends on its keys alone. -/
theorem parseUri_logs_repetitions (network : Network) (text : String) :
    (parseUri network text).operational =
        (repetitions ((goodPairs network text).map Prod.fst)).map repeatedWarning ∧
      ∀ (network' : Network) (text' : String) (r r' : PaymentRequest),
        (parseUri network text).outcome = .ok r → (parseUri network' text').outcome = .ok r' →
          (pairs text).map Prod.fst = (pairs text').map Prod.fst →
            (parseUri network text).operational = (parseUri network' text').operational := by
  have hlogs : ∀ network text, (parseUri network text).operational =
      (repetitions ((goodPairs network text).map Prod.fst)).map repeatedWarning := by
    intro network text
    rw [operational_parseUri, operational_readUri]
  refine ⟨hlogs network text, ?_⟩
  intro network' text' r r' hr hr' hkeys
  rw [hlogs, hlogs, goodPairs_of_outcome hr, goodPairs_of_outcome hr', hkeys]

theorem parseUri_logs_repetitions_sample :
    (parseUri .mainnet "digibyte:DCxTHiSxiSxTHExSTUFFzzzzzzzzbSG1oo?x=1&amount=2&x=3").operational =
      (parseUri .mainnet "digibyte://DCxTHiSxiSxTHExSTUFFzzzzzzzzbSG1oo?x=%26&amount=7&x=").operational := by
  obtain ⟨r, hr⟩ := exists_of_isOk (x := (parseUri .mainnet
    "digibyte:DCxTHiSxiSxTHExSTUFFzzzzzzzzbSG1oo?x=1&amount=2&x=3").outcome) (by decide +kernel)
  obtain ⟨s, hs⟩ := exists_of_isOk (x := (parseUri .mainnet
    "digibyte://DCxTHiSxiSxTHExSTUFFzzzzzzzzbSG1oo?x=%26&amount=7&x=").outcome) (by decide +kernel)
  exact (parseUri_logs_repetitions _ _).2 _ _ r s hr hs (by decide +kernel)

end Checklist

end PaymentUri
