import PaymentUri.Proofs.Entries

namespace PaymentUri

variable {amount : Option Int} {label message : Option String} {es : List (String × String)} {u : String}

theorem nonempty_nonempty (text : Option String) : nonempty (nonempty text) = nonempty text :=
  nonempty_eq_self (nonempty_ne text)

theorem canonical_of_buildUri {whom : Payee} (hamount : ∀ n, amount = some n → n < 10 ^ Amount.maxUnitDigits)
    (hnodup : (es.map Prod.fst).Nodup) (h : buildUri whom amount label message none es = .ok u) :
    (PaymentRequest.mk whom amount (nonempty label) (nonempty message) es).Canonical := by
  obtain ⟨hpos, hes, -⟩ := buildUri_eq_ok_iff.mp h
  refine ⟨?_, nonempty_ne label, nonempty_ne message, hnodup, hes⟩
  intro n hn
  have hlt := hamount n hn
  have hzero : 0 ≤ n := by
    rw [show amount = some n from hn] at hpos
    simpa using hpos
  obtain ⟨m, rfl⟩ := Int.eq_ofNat_of_zero_le hzero
  rw [Int.natAbs_natCast]
  exact ⟨hzero, by exact_mod_cast hlt⟩

theorem toUri_mk (whom : Payee) (amount : Option Int) (label message : Option String)
    (es : List (String × String)) :
    (PaymentRequest.mk whom amount (nonempty label) (nonempty message) es).toUri =
      buildUri whom amount label message none es := by
  rw [PaymentRequest.toUri, buildUri, buildUri, fixedParameters, fixedParameters, nonempty_nonempty,
    nonempty_nonempty]

theorem make_toUri_iff {whom : Payee} (hnodup : (es.map Prod.fst).Nodup) :
    (∃ r, PaymentRequest.make (some whom) amount label message es = .ok r ∧ r.toUri = .ok u) ↔
      buildUri whom amount label message none es = .ok u := by
  rw [← toUri_mk]
  simp only [PaymentRequest.make_eq_ok_iff, ofEntries_of_nodup hnodup]
  constructor
  · rintro ⟨r, ⟨_, ⟨⟩, -, -, rfl⟩, hu⟩
    exact hu
  · intro h
    obtain ⟨hpos, hes, -⟩ := buildUri_eq_ok_iff.mp h
    have haddress : es.lookup "address" = none :=
      lookup_eq_none fun e he => (isReserved_eq_false_iff.mp (hes e he).unreserved).1
    exact ⟨_, ⟨whom, rfl, hpos, haddress, rfl⟩, h⟩

/-- Building and reading back is the identity on everything that can be built. An empty label or
message is absent, and a request that is made first has the same URI. -/
theorem parseUri_buildUri (network : Network) (a : Address) (amount : Option Int)
    (label message : Option String) (extras : List (String × String)) (u : String)
    (hscheme : isUriText network.scheme = true) (hcolon : ':' ∉ network.scheme.toList)
    (ha : Address.decode network a.text = .ok a)
    (hamount : ∀ n, amount = some n → 0 ≤ n ∧ n < 10 ^ 40) (hnodup : (extras.map Prod.fst).Nodup) :
    ((∃ r, PaymentRequest.make (some (.address a)) amount label message extras = .ok r ∧
        r.toUri = .ok u) ↔ buildUri (.address a) amount label message none extras = .ok u) ∧
      (buildUri (.address a) amount label message none extras = .ok u →
        (parseUri network u).outcome =
          .ok ⟨.address a, amount, nonempty label, nonempty message, extras⟩) := by
  refine ⟨make_toUri_iff hnodup, fun h => ?_⟩
  have hc := canonical_of_buildUri (fun n hn => (hamount n hn).2) hnodup h
  have hread := PaymentRequest.parseUri_uriText hc hscheme hcolon ha rfl
  rw [← toUri_mk, PaymentRequest.toUri_of_canonical hc, Except.ok.injEq] at h
  rwa [h] at hread

def sample : Address where
  network := .mainnet
  version := 30
  hash := [85, 189, 192, 85, 37, 183, 236, 193, 165, 157, 167, 86, 39, 238, 154, 214, 131, 152, 245, 136]
  text := "DCxTHiSxiSxTHExSTUFFzzzzzzzzbSG1oo"

theorem decode_sample : Address.decode .mainnet sample.text = .ok sample := by
  have h : (Address.decode .mainnet sample.text).toOption.map (fun a => (a.version, a.hash)) =
      some (sample.version, sample.hash) := by decide +kernel
  cases hd : Address.decode .mainnet sample.text with
  | error fault =>
      rw [hd] at h
      cases h
  | ok a =>
      obtain ⟨hnetwork, htext⟩ := Address.eq_of_decode hd
      obtain ⟨network, version, hash, text⟩ := a
      rw [hd] at h
      cases hnetwork
      cases htext
      cases h
      rfl

theorem parseUri_buildUri_sample :
    (parseUri .mainnet "digibyte:DCxTHiSxiSxTHExSTUFFzzzzzzzzbSG1oo?amount=1.5&label=a%26b&x=%2B").outcome =
      .ok ⟨.address sample, some 150000000, some "a&b", none, [("x", "+")]⟩ := by
  have hamount : ∀ n, some (150000000 : Int) = some n → 0 ≤ n ∧ n < 10 ^ 40 := by
    rintro n ⟨⟩
    decide
  exact (parseUri_buildUri .mainnet sample (some 150000000) (some "a&b") (some "") [("x", "+")] _
    (by decide) (by decide) decode_sample hamount (by decide)).2 (by decide +kernel)

/-- A request that was read has a URI, which is read as the same request again. -/
theorem parseUri_toUri_of_parseUri (network : Network) (text : String) (r : PaymentRequest)
    (h : (parseUri network text).outcome = .ok r) :
    ∃ u, r.toUri = .ok u ∧ ∃ s, (parseUri network u).outcome = .ok s ∧ s = r ∧ s.toUri = .ok u := by
  have hc := PaymentRequest.canonical_of_outcome h
  obtain ⟨a, ps, huri, ha, hr⟩ := outcome_eq_ok_iff.mp h
  have hpayee : r.payee = .address a := by rw [hr, PaymentRequest.ofPairs]
  have hread := PaymentRequest.parseUri_uriText hc huri.scheme_legal huri.scheme_free ha hpayee
  have hu := PaymentRequest.toUri_of_canonical hc
  exact ⟨_, hu, r, hread, rfl, hu⟩

theorem parseUri_toUri_of_parseUri_sample :
    ∃ r, (parseUri .mainnet
        "digibyte://DCxTHiSxiSxTHExSTUFFzzzzzzzzbSG1oo?amount=1.50&x=a+b&amount=2").outcome = .ok r ∧
      ∃ u, r.toUri = .ok u ∧ ∃ s, (parseUri .mainnet u).outcome = .ok s ∧ s = r ∧ s.toUri = .ok u := by
  obtain ⟨r, hr⟩ := exists_of_isOk (x := (parseUri .mainnet
    "digibyte://DCxTHiSxiSxTHExSTUFFzzzzzzzzbSG1oo?amount=1.50&x=a+b&amount=2").outcome)
    (by decide +kernel)
  exact ⟨r, hr, parseUri_toUri_of_parseUri _ _ r hr⟩

end PaymentUri
