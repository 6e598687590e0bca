import PaymentUri.Proofs.RoundTrip

namespace PaymentUri

variable {network : Network} {s u : String} {a : Address} {amount : Option Int}
  {label message : Option String} {es : List (String × String)} {ps qs : List Pair}
  {xs ys query : List Char}

theorem eq_of_append_query (hps : ∀ p ∈ ps, p.WellFormed) (hqs : ∀ p ∈ qs, p.WellFormed)
    (hquery : IsQuery query ps) (hx : '?' ∉ xs) (hy : '?' ∉ ys) (h : xs ++ queryText qs = ys ++ query) :
    xs = ys ∧ qs = ps := by
  obtain ⟨hcut, -, htokens⟩ := Checklist.cut_query (isQuery_queryText qs) hqs hx
  obtain ⟨hcut', -, htokens'⟩ := Checklist.cut_query hquery hps hy
  rw [h, hcut', Prod.mk.injEq] at hcut
  refine ⟨hcut.1.symm, ?_⟩
  rw [← Pair.map_pairOf_text hqs, ← htokens, ← hcut.2, htokens', Pair.map_pairOf_text hps]

theorem eq_nil_of_append_query (hps : ∀ p ∈ ps, p.WellFormed) (hquery : IsQuery query ps)
    (hx : '?' ∈ xs) (hy : '?' ∉ ys) (h : xs ++ queryText qs = ys ++ query) : qs = [] := by
  obtain ⟨-, hcount, -⟩ := Checklist.cut_query hquery hps hy
  by_contra hne
  rw [← h, List.count_append, queryText, if_neg hne, List.count_cons_self] at hcount
  have hpos := List.count_pos_iff.mpr hx
  omega

theorem buildUri_text (network : Network) (s : String) (amount : Option Int)
    (label message : Option String) (es : List (String × String)) :
    buildUri (.text s) amount label message (some network.scheme) es =
      buildUri (.address ⟨network, 0, [], s⟩) amount label message none es := rfl

/-- The request that the parameters of a URI make of an address. -/
def asked (a : Address) (amount : Option Int) (label message : Option String)
    (es : List (String × String)) : PaymentRequest :=
  ⟨.address a, amount, nonempty label, nonempty message, es⟩

theorem canonical_asked (a : Address) (hamount : ∀ n, amount = some n → n < 10 ^ Amount.maxUnitDigits)
    (hnodup : (es.map Prod.fst).Nodup)
    (h : buildUri (.text s) amount label message (some network.scheme) es = .ok u) :
    (asked a amount label message es).Canonical := by
  rw [buildUri_text] at h
  have hc := canonical_of_buildUri hamount hnodup h
  exact ⟨hc.amount, hc.label, hc.message, hc.nodup, hc.writable⟩

theorem toList_of_buildUri_text (a : Address)
    (hamount : ∀ n, amount = some n → n < 10 ^ Amount.maxUnitDigits) (hnodup : (es.map Prod.fst).Nodup)
    (h : buildUri (.text s) amount label message (some network.scheme) es = .ok u) :
    u.toList = network.scheme.toList ++
      ':' :: (s.toList ++ queryText ((asked a amount label message es).entries.map Pair.ofEntry)) := by
  rw [buildUri_text] at h
  have hc := canonical_of_buildUri hamount hnodup h
  rw [← toUri_mk, PaymentRequest.toUri_of_canonical hc, Except.ok.injEq] at h
  rw [← h, toList_uriText]
  rfl

/-- A payment URI that was written for other text than its address has the pairs that were written,
unless the text brings the question mark. Then none were written. -/
theorem IsUri.of_written {r : PaymentRequest} (h : IsUri network u a.text ps) (hc : r.Canonical)
    (hu : u.toList = network.scheme.toList ++
      ':' :: (s.toList ++ queryText (r.entries.map Pair.ofEntry))) :
    ('?' ∉ s.toList → s.toList ∈ [a.text.toList, '/' :: '/' :: a.text.toList] ∧
        r.entries.map Pair.ofEntry = ps) ∧
      ('?' ∈ s.toList → r.entries = []) := by
  obtain ⟨slashes, hslashes, query, hquery, hwritten⟩ := h.written
  have hfree : '?' ∉ slashes ++ a.text.toList := by
    rw [List.mem_append, not_or]
    refine ⟨?_, h.address_free '?' (by decide)⟩
    have hall : ∀ slashes ∈ [[], ['/', '/']], '?' ∉ slashes := by decide
    exact hall slashes hslashes
  rw [hu, List.append_cancel_left_eq, List.cons.injEq, ← List.append_assoc] at hwritten
  constructor
  · intro hmark
    obtain ⟨hs, hps⟩ := eq_of_append_query h.wellFormed (PaymentRequest.wellFormed_entries hc) hquery
      hmark hfree hwritten.2
    have hmem : slashes ++ a.text.toList ∈ [a.text.toList, '/' :: '/' :: a.text.toList] :=
      List.mem_map_of_mem (f := (· ++ a.text.toList)) hslashes
    exact ⟨hs ▸ hmem, hps⟩
  · intro hmark
    have hnil := eq_nil_of_append_query h.wellFormed hquery hmark hfree hwritten.2
    exact List.map_eq_nil_iff.mp hnil

theorem nil_of_entries_asked (h : (asked a amount label message es).entries = []) :
    amount = none ∧ nonempty label = none ∧ nonempty message = none ∧ es = [] := by
  rw [PaymentRequest.entries, List.append_eq_nil_iff] at h
  obtain ⟨hfixed, hes⟩ := h
  simp only [asked, fixedEntries, nonempty_nonempty, List.append_eq_nil_iff, Option.toList_eq_nil_iff,
    Option.map_eq_none_iff] at hfixed
  exact ⟨hfixed.1.1, hfixed.1.2, hfixed.2, hes⟩

/-- A URI that was built on text and is read pays to that text what was asked for exactly when there
are no slashes in front of it and no question mark is in it. A question mark comes through only
where nothing was asked for. -/
theorem parseUri_buildUri_text_iff (network : Network) (s : String) (amount : Option Int)
    (label message : Option String) (extras : List (String × String)) (u : String) (r : PaymentRequest)
    (hamount : ∀ n, amount = some n → 0 ≤ n ∧ n < 10 ^ 40) (hnodup : (extras.map Prod.fst).Nodup)
    (hbuild : buildUri (.text s) amount label message (some network.scheme) extras = .ok u)
    (hread : (parseUri network u).outcome = .ok r) :
    ((r.payee.display = s ∧ r.amount = amount ∧ r.label = nonempty label ∧
        r.message = nonempty message ∧ r.extras = extras) ↔
      ¬['/', '/'] <+: s.toList ∧ '?' ∉ s.toList) ∧
      ('?' ∈ s.toList →
        amount = none ∧ nonempty label = none ∧ nonempty message = none ∧ extras = []) := by
  obtain ⟨a, ps, huri, ha, hr⟩ := outcome_eq_ok_iff.mp hread
  have hbound : ∀ n, amount = some n → n < 10 ^ Amount.maxUnitDigits := fun n hn => (hamount n hn).2
  have hc := canonical_asked a hbound hnodup hbuild
  obtain ⟨hplain, hmarked⟩ := huri.of_written hc (toList_of_buildUri_text a hbound hnodup hbuild)
  refine ⟨⟨?_, ?_⟩, fun hmark => nil_of_entries_asked (hmarked hmark)⟩
  · rintro ⟨hdisplay, -⟩
    have hs : a.text = s := by rw [← hdisplay, hr]; rfl
    subst hs
    refine ⟨?_, huri.address_free '?' (by decide)⟩
    have hprefix := Address.not_slashes_of_decode ha []
    rwa [List.append_nil] at hprefix
  · rintro ⟨hbare, hmark⟩
    obtain ⟨hs, hps⟩ := hplain hmark
    have haddress : a.text = s := by
      rcases List.mem_cons.mp hs with hs | hs
      · exact String.toList_inj.mp hs.symm
      · rw [List.mem_singleton.mp hs] at hbare
        exact absurd ⟨_, rfl⟩ hbare
    have hasked : .ofPairs (.address a) (asked a amount label message extras).entries =
        asked a amount label message extras := PaymentRequest.ofPairs_entries hc
    rw [hr, ← hps, map_entry_ofEntry, hasked]
    exact ⟨haddress, rfl, rfl, rfl, rfl⟩

theorem parseUri_buildUri_text_iff_sample :
    ∃ r, buildUri (.text "DCxTHiSxiSxTHExSTUFFzzzzzzzzbSG1oo") (some 150000000) none (some "a&b")
          (some Network.mainnet.scheme) [] =
        .ok "digibyte:DCxTHiSxiSxTHExSTUFFzzzzzzzzbSG1oo?amount=1.5&message=a%26b" ∧
      (parseUri .mainnet "digibyte:DCxTHiSxiSxTHExSTUFFzzzzzzzzbSG1oo?amount=1.5&message=a%26b").outcome =
        .ok r ∧
      r.payee.display = "DCxTHiSxiSxTHExSTUFFzzzzzzzzbSG1oo" ∧ r.amount = some 150000000 ∧
      r.label = none ∧ r.message = some "a&b" ∧ r.extras = [] := by
  have hbuild : buildUri (.text "DCxTHiSxiSxTHExSTUFFzzzzzzzzbSG1oo") (some 150000000) none (some "a&b")
        (some Network.mainnet.scheme) [] =
      .ok "digibyte:DCxTHiSxiSxTHExSTUFFzzzzzzzzbSG1oo?amount=1.5&message=a%26b" := by decide +kernel
  obtain ⟨r, hread⟩ := exists_of_isOk (x := (parseUri .mainnet
    "digibyte:DCxTHiSxiSxTHExSTUFFzzzzzzzzbSG1oo?amount=1.5&message=a%26b").outcome) (by decide +kernel)
  have hamount : ∀ n, some (150000000 : Int) = some n → 0 ≤ n ∧ n < 10 ^ 40 := by
    rintro n ⟨⟩
    decide
  have hlaw := (parseUri_buildUri_text_iff .mainnet _ _ none (some "a&b") [] _ r hamount (by decide) hbuild
    hread).1.mpr (by decide)
  exact ⟨r, hbuild, hread, hlaw⟩

/-- Text with a question mark in it brings an amount of its own. -/
theorem parseUri_buildUri_text_smuggled :
    buildUri (.text "DCxTHiSxiSxTHExSTUFFzzzzzzzzbSG1oo?amount=5") none none none
        (some Network.mainnet.scheme) [] =
      .ok "digibyte:DCxTHiSxiSxTHExSTUFFzzzzzzzzbSG1oo?amount=5" ∧
    ∃ r, (parseUri .mainnet "digibyte:DCxTHiSxiSxTHExSTUFFzzzzzzzzbSG1oo?amount=5").outcome = .ok r ∧
      r.payee.display = "DCxTHiSxiSxTHExSTUFFzzzzzzzzbSG1oo" ∧ r.amount = some 500000000 := by
  have hread : (parseUri .mainnet
      "digibyte:DCxTHiSxiSxTHExSTUFFzzzzzzzzbSG1oo?amount=5").outcome.toOption.map
        (fun r => (r.payee.display, r.amount)) =
      some ("DCxTHiSxiSxTHExSTUFFzzzzzzzzbSG1oo", some 500000000) := by decide +kernel
  obtain ⟨r, hr, hvalues⟩ := Option.map_eq_some_iff.mp hread
  obtain ⟨haddress, hamount⟩ := Prod.mk.inj hvalues
  exact ⟨by decide +kernel, r, eq_ok_of_toOption hr, haddress, hamount⟩

end PaymentUri
