import PaymentUri.Proofs.Reading
import PaymentUri.Proofs.RoundTrip

namespace PaymentUri

variable {network : Network} {text other address : String} {ps qs : List Pair} {whom : Payee}
  {es fs : List (String × String)} {k : String}

theorem lookup_of_mem (hnodup : (es.map Prod.fst).Nodup) {e : String × String} (he : e ∈ es) :
    es.lookup e.1 = some e.2 := by
  induction es with
  | nil => exact absurd he List.not_mem_nil
  | cons f es ih =>
      obtain ⟨l, v⟩ := f
      rw [List.map_cons, List.nodup_cons] at hnodup
      rcases List.mem_cons.mp he with rfl | hmem
      · exact List.lookup_cons_self
      · have hne : e.1 ≠ l := fun hl => hnodup.1 (List.mem_map.mpr ⟨e, hmem, hl⟩)
        rw [List.lookup_cons, beq_false_of_ne hne]
        exact ih hnodup.2 hmem

theorem sameEntries_of_lookup (hes : (es.map Prod.fst).Nodup) (hfs : (fs.map Prod.fst).Nodup)
    (h : ∀ k, es.lookup k = fs.lookup k) : sameEntries es fs = true := by
  have hkeys : (es.map Prod.fst).Perm (fs.map Prod.fst) := by
    rw [List.perm_ext_iff_of_nodup hes hfs]
    intro k
    rw [mem_keys_iff, mem_keys_iff, h]
  have hlength : es.length = fs.length := by simpa using hkeys.length_eq
  rw [sameEntries, Bool.and_eq_true, beq_iff_eq, List.all_eq_true]
  refine ⟨hlength, fun e he => ?_⟩
  rw [beq_iff_eq, ← h, lookup_of_mem hes he]

theorem lookup_filter_reserved (es : List (String × String)) (k : String) :
    (es.filter fun e => !isReserved e).lookup k = if k ∈ reservedKeys then none else es.lookup k := by
  split
  next hk =>
    refine lookup_reserved_eq_none (fun e he => ?_) hk
    simpa using (List.mem_filter.mp he).2
  next hk =>
    apply lookup_filter
    intro v
    rw [isReserved, decide_eq_false hk]
    rfl

theorem Payee.beq_self (whom : Payee) : (whom == whom) = true := by
  cases whom with
  | address a =>
      change (a.network.id == a.network.id && a.version == a.version && a.hash == a.hash &&
        a.text == a.text) = true
      simp
  | text s => exact beq_self_eq_true s

namespace PaymentRequest

/-- A request depends on its pairs only through the first value of each key. -/
theorem ofPairs_beq (h : ∀ k, es.lookup k = fs.lookup k) :
    (ofPairs whom es == ofPairs whom fs) = true := by
  have hextras : sameEntries (ofPairs whom es).extras (ofPairs whom fs).extras = true := by
    refine sameEntries_of_lookup (nodup_keys_firsts _) (nodup_keys_firsts _) fun k => ?_
    simp only [ofPairs, lookup_firsts, lookup_filter_reserved, h]
  change (whom == whom && _ == _ && _ == _ && _ == _ && _) = true
  rw [hextras, Payee.beq_self]
  simp [ofPairs, h]

end PaymentRequest

theorem lookup_of_filter_eq (h : ∀ k, qs.filter (fun p => p.key = k) = ps.filter fun p => p.key = k) (k : String) :
    (ps.map Pair.entry).lookup k = (qs.map Pair.entry).lookup k := by
  rw [lookup_entries, lookup_entries, ← List.head?_filter, ← List.head?_filter, h]

theorem IsUri.perm (h : IsUri network text address ps) (hperm : qs.Perm ps)
    (hother : IsWritten network.scheme other address qs) : IsUri network other address qs := by
  obtain ⟨a, ha⟩ := h.resolves
  have hwritten : IsWritten network.scheme text address ps := h.written
  have hlegal := (hwritten.legal_iff (Address.isUnreserved_of_decode ha)).mp
    (Alphabet.spells_iff_legal.mpr h.legal)
  exact hother.isUri h.scheme_legal h.scheme_free ⟨a, ha⟩
    (fun p hp => hlegal.2 p (hperm.subset hp)) (fun p hp => h.wellFormed p (hperm.subset hp))
    fun p hp => h.accepted p (hperm.subset hp)

/-- A payment URI stays one when its pairs change places, and says the same as long as pairs with
the same key keep theirs among each other. -/
theorem parseUri_perm (network : Network) (text other address : String) (ps qs : List Pair)
    (r : PaymentRequest) (h : (parseUri network text).outcome = .ok r)
    (hu : IsUri network text address ps) (hperm : qs.Perm ps)
    (hother : IsWritten network.scheme other address qs) :
    ∃ s, (parseUri network other).outcome = .ok s ∧
      ((∀ k, qs.filter (fun p => p.key = k) = ps.filter fun p => p.key = k) → (r == s) = true) := by
  obtain ⟨a, ps', huri, ha, hr⟩ := outcome_eq_ok_iff.mp h
  obtain ⟨rfl, rfl⟩ := huri.unique hu
  refine ⟨_, outcome_eq_ok_iff.mpr ⟨a, qs, hu.perm hperm hother, ha, rfl⟩, fun hkeys => ?_⟩
  rw [hr]
  exact PaymentRequest.ofPairs_beq (lookup_of_filter_eq hkeys)

theorem parseUri_perm_sample :
    ∃ r s, (parseUri .mainnet "digibyte:DCxTHiSxiSxTHExSTUFFzzzzzzzzbSG1oo?x=1&amount=2&x=3").outcome = .ok r ∧
      (parseUri .mainnet "digibyte:DCxTHiSxiSxTHExSTUFFzzzzzzzzbSG1oo?amount=2&x=1&x=3").outcome = .ok s ∧
      (r == s) = true := by
  let es : List (String × String) := [("x", "1"), ("amount", "2"), ("x", "3")]
  let fs : List (String × String) := [("amount", "2"), ("x", "1"), ("x", "3")]
  have haccepted : ∀ e ∈ es, (Pair.ofEntry e).Accepted := by
    intro e he
    have hchecks : ∀ e ∈ es, ∀ c ∈ Checklist.pairChecks e, c.fails = false := by decide +kernel
    exact Checklist.pairChecks_passed_iff.mp (hchecks e he)
  have hwritten : IsWritten Network.mainnet.scheme _ sample.text _ := isWritten_uriText (.address sample) es
  have huri := hwritten.isUri_ofEntry (by decide) (by decide) ⟨sample, decode_sample⟩ (by decide) haccepted
  have hread := outcome_eq_ok_iff.mpr ⟨sample, _, huri, decode_sample, rfl⟩
  have hperm : (fs.map Pair.ofEntry).Perm (es.map Pair.ofEntry) := .swap _ _ _
  obtain ⟨s, hs, heq⟩ := parseUri_perm _ _ _ _ _ _ _ hread huri hperm (isWritten_uriText (.address sample) fs)
  refine ⟨_, s, hread, hs, heq ?_⟩
  intro k
  by_cases hx : "x" = k
  · subst hx
    rfl
  · by_cases hamount : "amount" = k
    · subst hamount
      rfl
    · simp [es, fs, Pair.ofEntry, hx, hamount]

end PaymentUri
