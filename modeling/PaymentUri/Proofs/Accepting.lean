import PaymentUri.Proofs.Address
import PaymentUri.Proofs.Grammar

namespace PaymentUri

variable {network : Network} {text address : String} {p : Pair} {ps : List Pair} {cs xs : List Char}
  {r : PaymentRequest} {a : Address}

namespace Pair

theorem not_mem_text (h : p.WellFormed) {c : Char} (hc : c ∈ ['&', '=', '?']) (hne : c ≠ '=') :
    c ∉ p.text := by
  rw [text, List.mem_append, List.mem_cons, not_or, not_or]
  exact ⟨h.key_free c hc, hne, h.raw_free c hc⟩

theorem split_intercalate (hne : ps ≠ []) (h : ∀ p ∈ ps, p.WellFormed) :
    Text.split '&' (['&'].intercalate (ps.map Pair.text)) = ps.map Pair.text := by
  refine Text.split_eq_iff.mpr ⟨mt List.map_eq_nil_iff.mp hne, ?_, rfl⟩
  intro t ht
  obtain ⟨p, hp, rfl⟩ := List.mem_map.mp ht
  exact not_mem_text (h p hp) (by decide) (by decide)

theorem count_text (h : p.WellFormed) : p.text.count '=' = 1 := by
  rw [text, List.count_append, List.count_cons_self,
    List.count_eq_zero_of_not_mem (h.key_free '=' (by decide)),
    List.count_eq_zero_of_not_mem (h.raw_free '=' (by decide))]

theorem cut_text (h : p.WellFormed) : Text.cut '=' p.text = (p.key.toList, p.raw.toList) :=
  Text.cut_append_cons (h.key_free '=' (by decide)) _

theorem key_text (h : p.WellFormed) : Checklist.key p.text = p.key := by
  rw [Checklist.key, cut_text h, String.ofList_toList]

theorem value?_text (h : p.WellFormed) : Checklist.value? p.text = some p.value := by
  rw [Checklist.value?, cut_text h, String.ofList_toList, h.decoded]

theorem pair_text (h : p.WellFormed) : Checklist.pair p.text = p.entry := by
  rw [Checklist.pair, key_text h, value?_text h]
  rfl

theorem pairOf_text (h : p.WellFormed) : Checklist.pairOf p.text = p := by
  rw [Checklist.pairOf, key_text h, value?_text h, cut_text h, String.ofList_toList]
  rfl

theorem map_pairOf_text (h : ∀ p ∈ ps, p.WellFormed) : (ps.map Pair.text).map Checklist.pairOf = ps := by
  rw [List.map_map]
  conv_rhs => rw [← List.map_id ps]
  apply List.map_congr_left
  intro p hp
  exact pairOf_text (h p hp)

end Pair

namespace Checklist

theorem cut_query (hq : IsQuery cs ps) (hps : ∀ p ∈ ps, p.WellFormed) (hx : '?' ∉ xs) :
    Text.cut '?' (xs ++ cs) = (xs, cs.tail) ∧ (xs ++ cs).count '?' < 2 ∧
      tokens cs.tail = ps.map Pair.text := by
  have hcount := List.count_eq_zero_of_not_mem hx
  cases hq with
  | absent =>
      rw [List.append_nil, Text.cut_of_not_mem hx, hcount]
      exact ⟨rfl, by decide, rfl⟩
  | empty =>
      rw [Text.cut_append_cons hx, List.count_append, hcount]
      exact ⟨rfl, by decide, rfl⟩
  | pairs ps hne =>
      have hmark : '?' ∉ ['&'].intercalate (ps.map Pair.text) := by
        rw [Text.mem_intercalate_iff (by decide)]
        rintro ⟨t, ht, hm⟩
        obtain ⟨p, hp, rfl⟩ := List.mem_map.mp ht
        exact Pair.not_mem_text (hps p hp) (by decide) (by decide) hm
      have hnil : ['&'].intercalate (ps.map Pair.text) ≠ [] := by
        obtain ⟨p, rest, rfl⟩ := List.exists_cons_of_ne_nil hne
        have hm : '=' ∈ ['&'].intercalate ((p :: rest).map Pair.text) := by
          rw [Text.mem_intercalate_iff (by decide)]
          exact ⟨p.text, List.mem_cons_self, List.count_pos_iff.mp (by
            rw [Pair.count_text (hps p List.mem_cons_self)]
            decide)⟩
        exact List.ne_nil_of_mem hm
      rw [Text.cut_append_cons hx, List.count_append, List.count_cons_self, hcount,
        List.count_eq_zero_of_not_mem hmark, List.tail_cons, tokens, if_neg hnil, Pair.split_intercalate hne hps]
      exact ⟨rfl, by decide, rfl⟩

theorem dropSlashes_append {slashes : List Char} (hs : slashes ∈ [[], ['/', '/']]) (hne : xs ≠ [])
    (hx : '/' ∉ xs) : dropSlashes (slashes ++ (xs ++ cs)) = xs ++ cs := by
  rcases List.mem_cons.mp hs with rfl | hs
  · obtain ⟨x, rest, rfl⟩ := List.exists_cons_of_ne_nil hne
    have hslash : x ≠ '/' := fun h => hx (h ▸ List.mem_cons_self)
    rw [dropSlashes.eq_def]
    split
    next heq => exact absurd (List.cons.inj heq).1 hslash
    next => rfl
  · rw [List.mem_singleton.mp hs]
    rfl

end Checklist

namespace IsUri

open Checklist

theorem address_ne_nil (h : IsUri network text address ps) : address.toList ≠ [] := by
  obtain ⟨a, ha⟩ := h.resolves
  exact mt String.toList_eq_nil_iff.mp (Address.ne_empty_of_decode ha)

theorem cuts (h : IsUri network text address ps) :
    Text.cut ':' text.toList = (network.scheme.toList, (Text.cut ':' text.toList).2) ∧
      (body text).count '?' < 2 ∧ Checklist.address text = address.toList ∧
      tokens (query text) = ps.map Pair.text := by
  obtain ⟨slashes, hslashes, rest, hquery, he⟩ := h.written
  have hcut := Text.cut_append_cons h.scheme_free (slashes ++ (address.toList ++ rest))
  have hbody : body text = address.toList ++ rest := by
    rw [body, he, hcut]
    exact dropSlashes_append hslashes h.address_ne_nil (h.address_free '/' (by decide))
  obtain ⟨hq, hcount, htokens⟩ :=
    cut_query hquery h.wellFormed (h.address_free '?' (by decide))
  rw [Checklist.address, query, hbody, hq, he, hcut]
  exact ⟨rfl, hcount, rfl, htokens⟩

theorem pairs_eq (h : IsUri network text address ps) : pairs text = ps.map Pair.entry := by
  rw [pairs, h.cuts.2.2.2, List.map_map]
  apply List.map_congr_left
  intro p hp
  exact Pair.pair_text (h.wellFormed p hp)

theorem unique {other : String} {qs : List Pair} (h : IsUri network text address ps)
    (h' : IsUri network text other qs) : address = other ∧ ps = qs := by
  obtain ⟨-, -, haddress, htokens⟩ := h.cuts
  obtain ⟨-, -, haddress', htokens'⟩ := h'.cuts
  refine ⟨String.toList_inj.mp (haddress.symm.trans haddress'), ?_⟩
  rw [← Pair.map_pairOf_text h.wellFormed, ← htokens, htokens', Pair.map_pairOf_text h'.wellFormed]

theorem passed (h : IsUri network text address ps) :
    ∀ c ∈ uriChecks offline network text, c.fails = false := by
  obtain ⟨hcut, hcount, haddress, htokens⟩ := h.cuts
  obtain ⟨a, ha⟩ := h.resolves
  obtain ⟨slashes, hslashes, rest, hquery, he⟩ := h.written
  refine uriChecks_passed_iff.mpr ⟨textChecks_passed_iff.mpr ⟨h.legal, ?_, ?_, hcount, ?_, ?_⟩, ?_, ?_, ?_⟩
  · rintro ⟨hm, -⟩
    exact hm (by rw [he]; simp)
  · rw [hcut, String.ofList_toList]
  · rw [haddress]
    exact h.address_ne_nil
  · rw [haddress]
    exact h.address_free '/' (by decide)
  · rw [resolverCheck, haddress, String.ofList_toList, offline, Report.outcome_ofExcept, ha]
    rfl
  · intro token ht
    rw [htokens] at ht
    obtain ⟨p, hp, rfl⟩ := List.mem_map.mp ht
    have hw := h.wellFormed p hp
    refine tokenChecks_passed_iff.mpr ⟨⟨Pair.count_text hw, ?_⟩, ?_⟩
    · rw [Pair.key_text hw]
      exact hw.key_ne
    · rw [Pair.value?_text hw]
      exact Option.some_ne_none _
  · rw [h.pairs_eq]
    intro e he
    obtain ⟨p, hp, rfl⟩ := List.mem_map.mp he
    exact pairChecks_passed_iff.mpr (h.accepted p hp)

theorem scheme_legal (h : IsUri network text address ps) : isUriText network.scheme = true := by
  have hlegal := Alphabet.spells_iff_legal.mpr h.legal
  obtain ⟨slashes, -, rest, -, he⟩ := h.written
  rw [he, Alphabet.spells_append_cons (by decide) (by decide), Bool.and_eq_true] at hlegal
  exact hlegal.1

theorem payee_eq (h : IsUri network text address ps) (ha : Address.decode network address = .ok a) :
    payee offline network text = .address a := by
  rw [payee, h.cuts.2.2.1, String.ofList_toList, offline, Report.outcome_ofExcept, ha]
  rfl

end IsUri

/-- A text is read as a request exactly when it is a payment URI, and then as what its pairs make. -/
theorem outcome_eq_ok_iff :
    (parseUri network text).outcome = .ok r ↔
      ∃ a ps, IsUri network text a.text ps ∧ Address.decode network a.text = .ok a ∧
        r = .ofPairs (.address a) (ps.map Pair.entry) := by
  rw [(Checklist.parseUri_obeys network text offline).eq_ok_iff]
  constructor
  · rintro ⟨hpassed, rfl⟩
    have h := Checklist.isUri_of_passed hpassed
    obtain ⟨a, ha⟩ := h.resolves
    have hpairs := h.pairs_eq
    have hpayee := h.payee_eq ha
    rw [← (Address.eq_of_decode ha).2] at h ha
    exact ⟨a, _, h, ha, by rw [hpairs, hpayee]⟩
  · rintro ⟨a, ps, h, ha, rfl⟩
    exact ⟨h.passed, by rw [h.payee_eq ha, h.pairs_eq]⟩

end PaymentUri
