import PaymentUri.Proofs.EncodedValue
import PaymentUri.Proofs.PlainAmount
import PaymentUri.Proofs.RoundTrip

namespace PaymentUri

variable {network : Network} {text : String} {whom : Payee} {a : Address} {amount : Option Int}
  {label message : Option String} {es : List (String × String)} {ps : List Pair} {p : Pair}
  {rest : List Char} {r : PaymentRequest}

/-- The keys with a place of their own, in the order of their places. -/
def fixedKeys : List String := ["amount", "label", "message"]

/-- The text behind the scheme and the colon when nothing in it could be written otherwise. -/
structure CanonicalForm (rest : List Char) (ps : List Pair) : Prop where
  bare : ¬['/', '/'] <+: rest
  query : '?' ∈ rest → ps ≠ []
  nodup : (ps.map Pair.key).Nodup
  ordered : ∃ fixed extras, ps.map Pair.key = fixed ++ extras ∧ fixed.Sublist fixedKeys ∧
    ∀ k ∈ extras, k ∉ fixedKeys
  amount : ∀ p ∈ ps, p.key = "amount" → Amount.IsPlain p.raw.toList
  encoded : ∀ p ∈ ps, p.key ≠ "amount" → Escape.IsEncoded p.raw.toList

theorem mem_reservedKeys_iff {k : String} : k ∈ reservedKeys ↔ k = "address" ∨ k ∈ fixedKeys := by
  simp [reservedKeys, fixedKeys]

theorem keys_fixedEntries_sublist (amount : Option Int) (label message : Option String) :
    ((fixedEntries amount label message).map Prod.fst).Sublist fixedKeys := by
  rw [fixedEntries]
  cases amount <;> cases nonempty label <;> cases nonempty message <;> simp [fixedKeys]

theorem keys_ofEntry (es : List (String × String)) :
    (es.map Pair.ofEntry).map Pair.key = es.map Prod.fst := by
  rw [List.map_map]
  rfl

theorem nodup_keys_entries (h : r.Canonical) : (r.entries.map Prod.fst).Nodup := by
  rw [PaymentRequest.entries, List.map_append, List.nodup_append]
  refine ⟨(keys_fixedEntries_sublist _ _ _).nodup (by decide), h.nodup, ?_⟩
  intro k hk l hl he
  subst he
  obtain ⟨e, hfixed, rfl⟩ := List.mem_map.mp hk
  obtain ⟨f, hf, hkey⟩ := List.mem_map.mp hl
  have hreserved := reserved_of_mem_fixedEntries hfixed
  rw [← hkey] at hreserved
  exact of_decide_eq_false (h.writable f hf).unreserved hreserved

theorem canonicalForm_entries (h : r.Canonical) (ha : Address.decode network a.text = .ok a) :
    CanonicalForm (a.text.toList ++ queryText (r.entries.map Pair.ofEntry))
      (r.entries.map Pair.ofEntry) := by
  refine ⟨Address.not_slashes_of_decode ha _, ?_, ?_, ?_, ?_, ?_⟩
  · intro hmem hnil
    rw [hnil, queryText, if_pos rfl, List.append_nil] at hmem
    exact absurd (Address.isUnreserved_of_decode ha '?' hmem) (by decide)
  · rw [keys_ofEntry]
    exact nodup_keys_entries h
  · refine ⟨_, r.extras.map Prod.fst, ?_, keys_fixedEntries_sublist r.amount r.label r.message, ?_⟩
    · rw [keys_ofEntry, PaymentRequest.entries, List.map_append]
    · intro k hk hfixed
      obtain ⟨e, he, rfl⟩ := List.mem_map.mp hk
      exact of_decide_eq_false (h.writable e he).unreserved (mem_reservedKeys_iff.mpr (.inr hfixed))
  · intro p hp hkey
    obtain ⟨e, he, rfl⟩ := List.mem_map.mp hp
    rcases List.mem_append.mp he with he | he
    · rcases mem_fixedEntries.mp he with ⟨n, hn, rfl⟩ | ⟨s, -, rfl⟩ | ⟨s, -, rfl⟩
      · have hplain : Escape.encode (Amount.plain n) = Amount.plain n :=
          Escape.encode_of_isUnreserved fun _ => Amount.isUnreserved_of_mem_plain
        rw [Pair.ofEntry, hplain]
        exact Amount.isPlain_plain (h.amount n hn).1
      · exact absurd hkey (by decide : "label" ≠ "amount")
      · exact absurd hkey (by decide : "message" ≠ "amount")
    · exact absurd hkey (isReserved_eq_false_iff.mp (h.writable e he).unreserved).2.1
  · intro p hp _
    obtain ⟨e, -, rfl⟩ := List.mem_map.mp hp
    exact Escape.isEncoded_encode e.2

/-- Entries whose keys stand in a known order are found again by looking up those keys in turn. -/
theorem filterMap_lookup_of_sublist {keys : List String} (h : (es.map Prod.fst).Sublist keys)
    (hnodup : keys.Nodup) : (keys.filterMap fun k => (es.lookup k).map (k, ·)) = es := by
  generalize hk : es.map Prod.fst = found at h
  induction h generalizing es with
  | slnil =>
      rw [List.map_eq_nil_iff.mp hk]
      rfl
  | @cons found keys k hsub ih =>
      rw [List.nodup_cons] at hnodup
      have hnone : es.lookup k = none := by
        apply lookup_eq_none
        rintro e he rfl
        exact hnodup.1 (hsub.subset (hk ▸ List.mem_map_of_mem he))
      rw [List.filterMap_cons_none (by rw [hnone]; rfl), ih hnodup.2 hk]
  | @cons_cons found keys k hsub ih =>
      rw [List.nodup_cons] at hnodup
      match es with
      | [] => cases hk
      | (l, v) :: fs =>
          obtain ⟨rfl, hfs⟩ := List.cons.inj hk
          have hrest : (keys.filterMap fun k => (((l, v) :: fs).lookup k).map (k, ·)) =
              keys.filterMap fun k => (fs.lookup k).map (k, ·) := by
            apply List.filterMap_congr
            intro m hm
            have hne : (m == l) = false := beq_false_of_ne fun he => hnodup.1 (he ▸ hm)
            rw [List.lookup_cons, hne]
          rw [List.filterMap_cons_some (by rw [List.lookup_cons_self]; rfl), hrest, ih hnodup.2 hfs]

theorem fixedEntries_lookup (h : (es.map Prod.fst).Sublist fixedKeys)
    (hamount : ∀ v, ("amount", v) ∈ es → Amount.plain (unitsOf v) = v)
    (hlabel : ("label", "") ∉ es) (hmessage : ("message", "") ∉ es) :
    fixedEntries ((es.lookup "amount").map unitsOf) (es.lookup "label") (es.lookup "message") = es := by
  have hl : es.lookup "label" ≠ some "" := fun hv => hlabel (mem_of_lookup_eq_some hv)
  have hm : es.lookup "message" ≠ some "" := fun hv => hmessage (mem_of_lookup_eq_some hv)
  have ha : ((es.lookup "amount").map unitsOf).map (fun n => ("amount", Amount.plain n)) =
      (es.lookup "amount").map ("amount", ·) := by
    cases hv : es.lookup "amount" with
    | none => rfl
    | some v => simp [hamount v (mem_of_lookup_eq_some hv)]
  refine Eq.trans ?_ (filterMap_lookup_of_sublist h (by decide))
  simp only [fixedEntries, ha, nonempty_eq_self hl, nonempty_eq_self hm, fixedKeys,
    List.filterMap_cons, List.filterMap_nil]
  cases es.lookup "amount" <;> cases es.lookup "label" <;> cases es.lookup "message" <;> rfl

theorem entries_ofPairs {fs xs : List (String × String)} (hfixed : (fs.map Prod.fst).Sublist fixedKeys)
    (hextra : ∀ e ∈ xs, isReserved e = false) (hnodup : (xs.map Prod.fst).Nodup)
    (hamount : ∀ v, ("amount", v) ∈ fs → Amount.plain (unitsOf v) = v)
    (hlabel : ("label", "") ∉ fs) (hmessage : ("message", "") ∉ fs) :
    (PaymentRequest.ofPairs whom (fs ++ xs)).entries = fs ++ xs := by
  have hlookup : ∀ k ∈ fixedKeys, (fs ++ xs).lookup k = fs.lookup k := by
    intro k hk
    have hnone := lookup_reserved_eq_none hextra (mem_reservedKeys_iff.mpr (.inr hk))
    rw [List.lookup_append, hnone, Option.or_none]
  have hextras : ((fs ++ xs).filter fun e => !isReserved e) = xs :=
    filter_reserved_append
      (fun e he => mem_reservedKeys_iff.mpr (.inr (hfixed.subset (List.mem_map_of_mem he)))) hextra
  rw [PaymentRequest.entries, PaymentRequest.ofPairs]
  simp only [hlookup "amount" (by decide), hlookup "label" (by decide), hlookup "message" (by decide),
    hextras, firsts_of_nodup hnodup]
  rw [fixedEntries_lookup hfixed hamount hlabel hmessage]

namespace Pair

theorem value_eq_raw (h : p.WellFormed) (hraw : ∀ c ∈ p.raw.toList, Escape.isUnreserved c = true) :
    p.value = p.raw := by
  have hdecoded := Escape.decode?_encode p.raw
  rw [Escape.encode_of_isUnreserved hraw, h.decoded] at hdecoded
  exact Option.some.inj hdecoded

theorem ofEntry_entry (h : p.WellFormed) (he : Escape.IsEncoded p.raw.toList) :
    ofEntry p.entry = p := by
  have hraw := (Escape.encode_eq_iff h.decoded).mpr he
  obtain ⟨key, raw, value⟩ := p
  exact congrArg (Pair.mk key · value) hraw

end Pair

theorem CanonicalForm.isEncoded (h : CanonicalForm rest ps) (hp : p ∈ ps) :
    Escape.IsEncoded p.raw.toList := by
  by_cases hk : p.key = "amount"
  · exact Escape.isEncoded_of_isUnreserved (Amount.isUnreserved_of_isPlain (h.amount p hp hk))
  · exact h.encoded p hp hk

theorem CanonicalForm.map_ofEntry_entry (h : CanonicalForm rest ps) (hwell : ∀ p ∈ ps, p.WellFormed) :
    (ps.map Pair.entry).map Pair.ofEntry = ps := by
  rw [List.map_map]
  conv_rhs => rw [← List.map_id ps]
  apply List.map_congr_left
  intro p hp
  exact Pair.ofEntry_entry (hwell p hp) (h.isEncoded hp)

theorem CanonicalForm.entries_eq (h : CanonicalForm rest ps) (hwell : ∀ p ∈ ps, p.WellFormed)
    (haccepted : ∀ p ∈ ps, p.Accepted) :
    (PaymentRequest.ofPairs whom (ps.map Pair.entry)).entries = ps.map Pair.entry := by
  obtain ⟨fixed, extras, hkeys, hfixed, hextras⟩ := h.ordered
  have hnodup := h.nodup
  obtain ⟨fs, xs, rfl, rfl, rfl⟩ := List.map_eq_append_iff.mp hkeys
  rw [List.map_append, List.nodup_append] at hnodup
  rw [List.map_append]
  refine entries_ofPairs ?_ ?_ ?_ ?_ ?_ ?_
  · rwa [List.map_map]
  · intro e he
    obtain ⟨p, hp, rfl⟩ := List.mem_map.mp he
    have haddress := (haccepted p (List.mem_append_right _ hp)).address
    have hother := hextras p.key (List.mem_map_of_mem hp)
    exact decide_eq_false (mt mem_reservedKeys_iff.mp (not_or.mpr ⟨haddress, hother⟩))
  · rw [List.map_map]
    exact hnodup.2.1
  · intro v hv
    obtain ⟨p, hp, he⟩ := List.mem_map.mp hv
    have hmem : p ∈ fs ++ xs := List.mem_append_left _ hp
    obtain ⟨hkey, rfl⟩ := Prod.mk.inj he
    obtain ⟨n, hn, -⟩ := (haccepted p hmem).amount hkey
    have hplain := h.amount p hmem hkey
    have hraw := Pair.value_eq_raw (hwell p hmem) (Amount.isUnreserved_of_isPlain hplain)
    rw [← hraw] at hplain
    rw [unitsOf, hn]
    exact Amount.plain_of_parse hplain hn
  · intro hv
    obtain ⟨p, hp, he⟩ := List.mem_map.mp hv
    obtain ⟨hkey, hvalue⟩ := Prod.mk.inj he
    exact (haccepted p (List.mem_append_left _ hp)).label hkey hvalue
  · intro hv
    obtain ⟨p, hp, he⟩ := List.mem_map.mp hv
    obtain ⟨hkey, hvalue⟩ := Prod.mk.inj he
    exact (haccepted p (List.mem_append_left _ hp)).message hkey hvalue

theorem toUri_eq_ok_iff (hc : r.Canonical) (hpayee : r.payee = .address a)
    (hscheme : a.network.scheme = network.scheme)
    (htext : text.toList = network.scheme.toList ++ ':' :: rest) :
    r.toUri = .ok text ↔ a.text.toList ++ queryText (r.entries.map Pair.ofEntry) = rest := by
  rw [PaymentRequest.toUri_of_canonical hc, Except.ok.injEq, ← String.toList_inj, toList_uriText, htext,
    hpayee, Payee.scheme, hscheme, List.append_cancel_left_eq, List.cons.injEq]
  exact and_iff_right rfl

theorem CanonicalForm.eq_append_queryText (h : CanonicalForm rest ps) (hu : IsUri network text a.text ps)
    (htext : text.toList = network.scheme.toList ++ ':' :: rest) :
    a.text.toList ++ queryText ps = rest := by
  obtain ⟨slashes, hslashes, query, hquery, hwritten⟩ := hu.written
  rw [htext, List.append_cancel_left_eq] at hwritten
  have hrest := (List.cons.inj hwritten).2
  rcases List.mem_cons.mp hslashes with rfl | hslashes
  · rw [List.nil_append] at hrest
    rw [hrest, ← hquery.eq_queryText fun hmem => h.query (hrest ▸ List.mem_append_right _ hmem)]
  · rw [List.mem_singleton.mp hslashes] at hrest
    exact absurd ⟨_, hrest.symm⟩ h.bare

/-- A payment URI is the one that is written for its request exactly when it has no slashes before
the address, no empty query, no key twice, the fixed keys in front in their order, a plain amount,
and no other value that could be encoded otherwise. -/
theorem toUri_eq_self_iff (network : Network) (text : String) (r : PaymentRequest)
    (h : (parseUri network text).outcome = .ok r) :
    (∃ rest address ps, text.toList = network.scheme.toList ++ ':' :: rest ∧
        IsUri network text address ps) ∧
      ∀ rest address ps, text.toList = network.scheme.toList ++ ':' :: rest →
        IsUri network text address ps → (r.toUri = .ok text ↔ CanonicalForm rest ps) := by
  obtain ⟨a, qs, huri, ha, hr⟩ := outcome_eq_ok_iff.mp h
  have hc := PaymentRequest.canonical_of_outcome h
  have hpayee : r.payee = .address a := by rw [hr, PaymentRequest.ofPairs]
  have hscheme : a.network.scheme = network.scheme := by rw [(Address.eq_of_decode ha).1]
  constructor
  · obtain ⟨slashes, -, query, -, htext⟩ := huri.written
    exact ⟨_, a.text, qs, htext, huri⟩
  · intro rest address ps htext hu
    obtain ⟨rfl, rfl⟩ := huri.unique hu
    rw [toUri_eq_ok_iff hc hpayee hscheme htext]
    constructor
    · -- The text is then a URI with the entries as its pairs, and it can be read in one way only.
      rintro rfl
      have huri' := PaymentRequest.isUri_uriText hc huri.scheme_legal huri.scheme_free ha
      have hsame : uriText (.address a) r.entries = text := by
        rw [← String.toList_inj, toList_uriText, htext, Payee.scheme, hscheme]
        rfl
      rw [hsame] at huri'
      rw [(huri.unique huri').2]
      exact canonicalForm_entries hc ha
    · intro hform
      rw [hr, hform.entries_eq huri.wellFormed huri.accepted, hform.map_ofEntry_entry huri.wellFormed]
      exact hform.eq_append_queryText huri htext

theorem toUri_eq_self_iff_sample :
    ∃ r rest address ps,
      (parseUri .mainnet "digibyte:DCxTHiSxiSxTHExSTUFFzzzzzzzzbSG1oo?amount=1.5&label=a%26b&x=%2B").outcome =
          .ok r ∧
        IsUri .mainnet "digibyte:DCxTHiSxiSxTHExSTUFFzzzzzzzzbSG1oo?amount=1.5&label=a%26b&x=%2B" address ps ∧
        r.toUri = .ok "digibyte:DCxTHiSxiSxTHExSTUFFzzzzzzzzbSG1oo?amount=1.5&label=a%26b&x=%2B" ∧
        CanonicalForm rest ps := by
  have hwritten : (parseUri .mainnet
      "digibyte:DCxTHiSxiSxTHExSTUFFzzzzzzzzbSG1oo?amount=1.5&label=a%26b&x=%2B").outcome.toOption.bind
        (fun r => r.toUri.toOption) =
      some "digibyte:DCxTHiSxiSxTHExSTUFFzzzzzzzzbSG1oo?amount=1.5&label=a%26b&x=%2B" := by decide +kernel
  obtain ⟨r, hr, hu⟩ := Option.bind_eq_some_iff.mp hwritten
  have hread := eq_ok_of_toOption hr
  obtain ⟨⟨rest, address, ps, htext, huri⟩, hiff⟩ := toUri_eq_self_iff _ _ r hread
  exact ⟨r, rest, address, ps, hread, huri, eq_ok_of_toOption hu,
    (hiff rest address ps htext huri).mp (eq_ok_of_toOption hu)⟩

end PaymentUri
