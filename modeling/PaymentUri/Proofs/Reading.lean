import PaymentUri.Proofs.Accepting

namespace PaymentUri

variable {whom : Payee} {ps : List Pair} {name : String}

theorem lookup_entries (ps : List Pair) (name : String) :
    (ps.map Pair.entry).lookup name = (ps.find? fun p => p.key = name).map Pair.value := by
  induction ps with
  | nil => rfl
  | cons p ps ih =>
      by_cases hk : p.key = name
      · rw [List.map_cons, List.find?_cons_of_pos (by simpa using hk), Pair.entry, ← hk]
        exact List.lookup_cons_self
      · have hb : (name == p.key) = false := beq_false_of_ne (Ne.symm hk)
        rw [List.map_cons, List.find?_cons_of_neg (by simpa using hk), ← ih, Pair.entry, List.lookup_cons, hb]

namespace PaymentRequest

theorem get_amount (whom : Payee) (ps : List Pair) :
    (ofPairs whom (ps.map Pair.entry)).get "amount" =
      ((ps.find? fun p => p.key = "amount").map Pair.value).elim .absent fun v => .units (unitsOf v) := by
  rw [← lookup_entries, get, ofPairs]
  cases (ps.map Pair.entry).lookup "amount" with
  | none => rfl
  | some v => rfl

theorem get_text (haddress : name ≠ "address") (hamount : name ≠ "amount") :
    (ofPairs whom (ps.map Pair.entry)).get name =
      ((ps.find? fun p => p.key = name).map Pair.value).elim .absent .text := by
  rw [← lookup_entries]
  by_cases hlabel : name = "label"
  · subst hlabel
    rfl
  by_cases hmessage : name = "message"
  · subst hmessage
    rfl
  have hreserved : ∀ v, isReserved (name, v) = false :=
    fun v => isReserved_eq_false_iff.mpr ⟨haddress, hamount, hlabel, hmessage⟩
  rw [get, ofPairs, lookup_firsts, lookup_filter]
  · intro v
    rw [hreserved v]
    rfl
  · exact haddress
  · exact hamount
  · exact hlabel
  · exact hmessage

theorem keys_extras (whom : Payee) (ps : List Pair) :
    (ofPairs whom (ps.map Pair.entry)).extras.map Prod.fst =
      ((ps.map Pair.key).filter fun k => k ∉ reservedKeys).eraseDups := by
  have hf : (fun e => !isReserved e) ∘ Pair.entry = (fun k => decide (k ∉ reservedKeys)) ∘ Pair.key := by
    funext p
    rw [Function.comp_apply, Function.comp_apply, isReserved, ← decide_not]
    exact decide_eq_decide.mpr Iff.rfl
  rw [ofPairs, keys_firsts, List.filter_map, List.filter_map, List.map_map, hf]
  rfl

end PaymentRequest

/-- A request as the grammar tells it: of every key the first pair counts. -/
structure IsReading (r : PaymentRequest) (address : String) (ps : List Pair) : Prop where
  address : r.get "address" = .text address
  amount : match ps.find? fun p => p.key = "amount" with
    | none => r.get "amount" = .absent
    | some p => ∃ n, Amount.parse p.value = .ok n ∧ r.get "amount" = .units n
  text : ∀ name, name ≠ "address" → name ≠ "amount" →
    r.get name = ((ps.find? fun p => p.key = name).map Pair.value).elim .absent .text
  extras : r.extras.map Prod.fst = ((ps.map Pair.key).filter fun k => k ∉ reservedKeys).eraseDups

theorem IsUri.isReading {network : Network} {text : String} {a : Address}
    (h : IsUri network text a.text ps) :
    IsReading (.ofPairs (.address a) (ps.map Pair.entry)) a.text ps := by
  refine ⟨rfl, ?_, fun name => PaymentRequest.get_text, PaymentRequest.keys_extras _ ps⟩
  rw [PaymentRequest.get_amount]
  split
  next hnone =>
    rw [hnone]
    rfl
  next p hp =>
    have hk : p.key = "amount" := by simpa using List.find?_some hp
    obtain ⟨n, hn, -⟩ := (h.accepted p (List.mem_of_find?_eq_some hp)).amount hk
    refine ⟨n, hn, ?_⟩
    rw [hp, Option.map_some, Option.elim_some, unitsOf, hn]

/-- The reader accepts exactly the payment URIs of its network, and whichever way such a text can be
taken apart, the request says what its address and its first pairs say. -/
theorem parseUri_accepts_grammar (network : Network) (text : String) :
    ((∃ r, (parseUri network text).outcome = .ok r) ↔ ∃ address ps, IsUri network text address ps) ∧
      ∀ r address ps, (parseUri network text).outcome = .ok r → IsUri network text address ps →
        IsReading r address ps := by
  constructor
  · constructor
    · rintro ⟨r, hr⟩
      obtain ⟨a, ps, h, -, -⟩ := outcome_eq_ok_iff.mp hr
      exact ⟨a.text, ps, h⟩
    · rintro ⟨address, ps, h⟩
      obtain ⟨a, ha⟩ := h.resolves
      obtain ⟨-, rfl⟩ := Address.eq_of_decode ha
      exact ⟨_, outcome_eq_ok_iff.mpr ⟨a, ps, h, ha, rfl⟩⟩
  · intro r address ps hr h
    obtain ⟨a, ha⟩ := h.resolves
    obtain ⟨-, rfl⟩ := Address.eq_of_decode ha
    have hread := outcome_eq_ok_iff.mpr ⟨a, ps, h, ha, rfl⟩
    rw [hr, Except.ok.injEq] at hread
    rw [hread]
    exact h.isReading

end PaymentUri
