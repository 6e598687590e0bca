import PaymentUri.Proofs.Grammar

namespace PaymentUri

variable {resolve : Resolver} {network : Network} {text : String} {token : List Char}
  {whom : Payee} {es : List (String × String)}

namespace Checklist

theorem spells_token (h : isUriText text = true) (ht : token ∈ tokens (query text)) :
    Alphabet.uri.spells token = true := by
  rw [tokens] at ht
  split at ht
  next => exact absurd ht List.not_mem_nil
  next => exact Alphabet.spells_of_mem_split (by decide) (by decide) (spells_query h) ht

theorem isQueryKey_key (h : isUriText text = true) (hcount : (body text).count '?' < 2)
    (ht : token ∈ tokens (query text)) (hpassed : ∀ c ∈ tokenChecks token, c.fails = false) :
    isQueryKey (key token) = true := by
  obtain ⟨hand, hquestion⟩ := free_of_mem_tokens (not_mem_query hcount) ht
  have hwell := wellFormed_pairOf hand hquestion hpassed
  have hspells : Alphabet.uri.spells (Text.cut '=' token).1 = true :=
    (Alphabet.spells_cut (by decide) (by decide) (spells_token h ht)).1
  rw [isQueryKey, Bool.and_eq_true, bne_iff_ne]
  refine ⟨hwell.key_ne, ?_⟩
  rw [key, String.toList_ofList]
  refine (Alphabet.key_spells_iff hspells).mpr ?_
  intro c hc
  have hfree := hwell.key_free c hc
  rwa [pairOf, key, String.toList_ofList] at hfree

theorem isQueryKey_of_mem_pairs (h : ∀ c ∈ uriChecks resolve network text, c.fails = false)
    {e : String × String} (he : e ∈ pairs text) : isQueryKey e.1 = true := by
  obtain ⟨htext, -, htokens, -⟩ := uriChecks_passed_iff.mp h
  obtain ⟨hlegal, -, -, hcount, -⟩ := textChecks_passed_iff.mp htext
  obtain ⟨token, ht, rfl⟩ := List.mem_map.mp he
  exact isQueryKey_key (Alphabet.spells_iff_legal.mpr hlegal) hcount ht (htokens token ht)

end Checklist

theorem mem_of_lookup_eq_some {k v : String} (h : es.lookup k = some v) : (k, v) ∈ es := by
  obtain ⟨before, rest, rfl, -⟩ := List.lookup_eq_some_iff.mp h
  exact List.mem_append_right before List.mem_cons_self

namespace PaymentRequest

theorem canonical_ofPairs (haccepted : ∀ k v, (k, v) ∈ es → (Pair.mk k "" v).Accepted)
    (hkeys : ∀ e ∈ es, isQueryKey e.1 = true) : (ofPairs whom es).Canonical := by
  refine ⟨?_, ?_, ?_, nodup_keys_firsts _, ?_⟩
  · intro n hn
    obtain ⟨v, hv, hn⟩ := Option.map_eq_some_iff.mp hn
    obtain ⟨m, hm, hpos⟩ := (haccepted _ _ (mem_of_lookup_eq_some hv)).amount rfl
    rw [unitsOf, hm] at hn
    subst hn
    exact ⟨hpos, Amount.natAbs_lt_of_parse hm⟩
  · intro hl
    exact (haccepted _ _ (mem_of_lookup_eq_some hl)).label rfl rfl
  · intro hm
    exact (haccepted _ _ (mem_of_lookup_eq_some hm)).message rfl rfl
  · intro e he
    obtain ⟨hmem, hreserved⟩ := List.mem_filter.mp (mem_of_mem_firsts he)
    have hrequired := (haccepted e.1 e.2 hmem).required
    rw [← List.isPrefixOf_iff_prefix, Bool.not_eq_true] at hrequired
    exact ⟨by simpa using hreserved, hkeys e hmem, hrequired⟩

theorem canonical_of_outcome {r : PaymentRequest} (h : (parseUri network text resolve).outcome = .ok r) :
    r.Canonical := by
  obtain ⟨hpassed, rfl⟩ := (Checklist.parseUri_obeys network text resolve).eq_ok_iff.mp h
  obtain ⟨-, -, -, hpairs⟩ := Checklist.uriChecks_passed_iff.mp hpassed
  exact canonical_ofPairs (fun k v he => Checklist.pairChecks_passed_iff.mp (hpairs (k, v) he))
    fun e he => Checklist.isQueryKey_of_mem_pairs hpassed he

end PaymentRequest

end PaymentUri
