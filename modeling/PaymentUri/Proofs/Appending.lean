import PaymentUri.Proofs.RoundTrip

namespace PaymentUri

variable {network : Network} {text suffix address other : String} {ps qs : List Pair}

namespace PaymentRequest

/-- A request that says all that another one says, and perhaps more. -/
structure Extends (s r : PaymentRequest) : Prop where
  payee : s.payee = r.payee
  amount : ∀ n, r.amount = some n → s.amount = some n
  label : ∀ t, r.label = some t → s.label = some t
  message : ∀ t, r.message = some t → s.message = some t
  extras : r.extras <+: s.extras

theorem ofPairs_append_extends (whom : Payee) (es fs : List (String × String)) :
    (ofPairs whom (es ++ fs)).Extends (ofPairs whom es) := by
  refine ⟨rfl, ?_, ?_, ?_, ?_⟩
  · intro n hn
    obtain ⟨v, hv, rfl⟩ := Option.map_eq_some_iff.mp hn
    simp only [ofPairs, lookup_append_of_eq_some hv, Option.map_some]
  · intro t ht
    exact lookup_append_of_eq_some ht fs
  · intro t ht
    exact lookup_append_of_eq_some ht fs
  · simp only [ofPairs, List.filter_append]
    exact firsts_prefix_append _ _

end PaymentRequest

namespace IsUri

open Checklist

theorem body_append (h : IsUri network text address ps) (suffix : String) :
    ∃ rest, IsQuery rest ps ∧
      body (text ++ "&" ++ suffix) = address.toList ++ (rest ++ '&' :: suffix.toList) := by
  obtain ⟨slashes, hslashes, rest, hquery, he⟩ := h.written
  have htext : (text ++ "&" ++ suffix).toList =
      network.scheme.toList ++
        ':' :: (slashes ++ (address.toList ++ (rest ++ '&' :: suffix.toList))) := by
    simp [he]
  refine ⟨rest, hquery, ?_⟩
  rw [body, htext, Text.cut_append_cons h.scheme_free]
  exact dropSlashes_append hslashes h.address_ne_nil (h.address_free '/' (by decide))

theorem tokens_append_sep (xs ys : List Char) :
    tokens (xs ++ '&' :: ys) = Text.split '&' xs ++ Text.split '&' ys := by
  rw [tokens, if_neg (by simp), Text.split_append_sep]

theorem append (h : IsUri network text address ps)
    (h' : IsUri network (text ++ "&" ++ suffix) other qs) : other = address ∧ ps <+: qs := by
  obtain ⟨rest, hquery, hbody⟩ := h.body_append suffix
  obtain ⟨-, -, haddress, htokens⟩ := h'.cuts
  have hfree : '?' ∉ address.toList := h.address_free '?' (by decide)
  rw [Checklist.address, hbody] at haddress
  rw [query, hbody] at htokens
  cases hquery with
  | absent =>
      -- The ampersand gets into the address, which has none.
      obtain ⟨a, ha⟩ := h'.resolves
      have hmark : '?' ∉ address.toList ++ ['&'] := by simp [hfree]
      have hm : '&' ∈ other.toList := by
        rw [← haddress, List.nil_append, List.append_cons, Text.cut_append hmark]
        simp
      exact absurd (Address.isUnreserved_of_decode ha '&' hm) (by decide)
  | empty =>
      -- The ampersand makes an empty token, which is no pair.
      rw [List.cons_append, Text.cut_append_cons hfree, tokens_append_sep] at htokens
      have hm : [] ∈ qs.map Pair.text := by
        rw [← htokens]
        exact List.mem_cons_self
      obtain ⟨p, -, hp⟩ := List.mem_map.mp hm
      simp [Pair.text] at hp
  | pairs ps hne =>
      rw [List.cons_append, Text.cut_append_cons hfree] at htokens haddress
      rw [tokens_append_sep, Pair.split_intercalate hne h.wellFormed] at htokens
      refine ⟨String.toList_inj.mp haddress.symm, ?_⟩
      rw [← Pair.map_pairOf_text h'.wellFormed, ← htokens, List.map_append,
        Pair.map_pairOf_text h.wellFormed]
      exact List.prefix_append _ _

end IsUri

/-- Parameters that are appended to a payment URI change nothing that it says already. -/
theorem parseUri_append_extends (network : Network) (text suffix : String) (r s : PaymentRequest)
    (hr : (parseUri network text).outcome = .ok r)
    (hs : (parseUri network (text ++ "&" ++ suffix)).outcome = .ok s) : s.Extends r := by
  obtain ⟨a, ps, huri, ha, rfl⟩ := outcome_eq_ok_iff.mp hr
  obtain ⟨b, qs, huri', hb, rfl⟩ := outcome_eq_ok_iff.mp hs
  obtain ⟨haddress, ts, rfl⟩ := huri.append huri'
  rw [haddress, ha, Except.ok.injEq] at hb
  subst hb
  rw [List.map_append]
  exact PaymentRequest.ofPairs_append_extends _ _ _

theorem parseUri_append_extends_sample :
    ∃ r s, (parseUri .mainnet "digibyte:DCxTHiSxiSxTHExSTUFFzzzzzzzzbSG1oo?x=1&amount=2").outcome = .ok r ∧
      (parseUri .mainnet
        ("digibyte:DCxTHiSxiSxTHExSTUFFzzzzzzzzbSG1oo?x=1&amount=2" ++ "&" ++ "amount=3&y=2&x=%26")).outcome =
          .ok s ∧
      s.Extends r := by
  obtain ⟨r, hr⟩ := exists_of_isOk (x := (parseUri .mainnet
    "digibyte:DCxTHiSxiSxTHExSTUFFzzzzzzzzbSG1oo?x=1&amount=2").outcome) (by decide +kernel)
  obtain ⟨s, hs⟩ := exists_of_isOk (x := (parseUri .mainnet
    ("digibyte:DCxTHiSxiSxTHExSTUFFzzzzzzzzbSG1oo?x=1&amount=2" ++ "&" ++ "amount=3&y=2&x=%26")).outcome)
    (by decide +kernel)
  exact ⟨r, s, hr, hs, parseUri_append_extends _ _ _ r s hr hs⟩

end PaymentUri
