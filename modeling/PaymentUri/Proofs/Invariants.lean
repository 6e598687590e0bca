import PaymentUri.Proofs.Canonical
import PaymentUri.Proofs.LastEntries
import PaymentUri.Proofs.NetworkAddress

namespace PaymentUri

variable {network : Network} {text : String} {a : Address} {whom? : Option Payee} {amount : Option Int}
  {label message : Option String} {es : List (String × String)} {r : PaymentRequest}

/-- An address as it is written on a network. -/
structure Address.BelongsTo (network : Network) (a : Address) : Prop where
  accepted : network.accepts a.version = true
  length : a.hash.length = 20
  written : Address.encodeChecked a.version a.hash = .ok a.text
  network : a.network = network

theorem Address.belongsTo_of_decode (h : Address.decode network text = .ok a) : a.BelongsTo network := by
  obtain ⟨version, hash, haccepted, hlength, hwritten, rfl⟩ := Address.decode_eq_ok_iff.mp h
  refine ⟨haccepted, hlength, ?_, rfl⟩
  rw [Address.encodeChecked_natCast version.toNat_lt, UInt8.ofNat_toNat, hwritten]

namespace PaymentRequest

theorem exists_make_error_iff :
    (∃ e, make whom? amount label message es = .error e) ↔
      whom? = none ∨ (∃ n, amount = some n ∧ n < 0) ∨ "address" ∈ es.map Prod.fst := by
  rw [← any_negative_iff, mem_keys_iff]
  cases whom? with
  | none => exact iff_of_true ⟨_, rfl⟩ (.inl rfl)
  | some whom =>
      rw [make]
      by_cases hnegative : amount.any (· < 0) = true
      · simp [hnegative]
      · by_cases haddress : (es.lookup "address").isSome = true <;> simp [hnegative, haddress]

theorem sound_of_make (h : make whom? amount label message es = .ok r) : whom? = some r.payee ∧ r.Sound := by
  obtain ⟨whom, rfl, hpos, haddress, rfl⟩ := make_eq_ok_iff.mp h
  refine ⟨rfl, fun n hn => ?_, nonempty_ne label, nonempty_ne message, ?_, nodup_keys_ofEntries es⟩
  · rw [← Bool.not_eq_true, any_negative_iff] at hpos
    exact Int.not_lt.mp fun hnegative => hpos ⟨n, hn, hnegative⟩
  · rw [keys_ofEntries, List.mem_eraseDups, mem_keys_iff, haddress]
    nofun

/-- What a request promises besides when it was read on a network. -/
structure IsFrom (network : Network) (r : PaymentRequest) : Prop where
  amount : ∀ n, r.amount = some n → n < 10 ^ 40
  extras : ∀ e ∈ r.extras, isQueryKey e.1 = true ∧ e.1 ∉ reservedKeys ∧ isRequiredKey e.1 = false
  payee : ∃ a, r.payee = .address a ∧ a.BelongsTo network

theorem isFrom_of_outcome (h : (parseUri network text).outcome = .ok r) : r.IsFrom network := by
  have hcanonical := canonical_of_outcome h
  obtain ⟨a, ps, -, ha, hr⟩ := outcome_eq_ok_iff.mp h
  refine ⟨fun n hn => ?_, fun e he => ?_, a, by rw [hr, ofPairs], Address.belongsTo_of_decode ha⟩
  · obtain ⟨hpos, hlt⟩ := hcanonical.amount n hn
    rw [← Int.natAbs_of_nonneg hpos]
    exact_mod_cast hlt
  · have hw := hcanonical.writable e he
    exact ⟨hw.spelled, of_decide_eq_false hw.unreserved, hw.optional⟩

/-- Every request is sound, whether it was made or read, and every sound one can be made. Making fails for
three reasons only. A request that was read has an amount below the bound, extra parameters that can be
written as they are, and an address as its network writes it. -/
theorem requests_are_sound :
    (∀ whom? amount label message es,
      ((∃ e, make whom? amount label message es = .error e) ↔
        whom? = none ∨ (∃ n, amount = some n ∧ n < 0) ∨ "address" ∈ es.map Prod.fst) ∧
      ∀ r, make whom? amount label message es = .ok r → whom? = some r.payee ∧ r.Sound) ∧
    (∀ r, r.Sound → make (some r.payee) r.amount r.label r.message r.extras = .ok r) ∧
    ∀ network text r, (parseUri network text).outcome = .ok r → r.Sound ∧ r.IsFrom network := by
  refine ⟨fun whom? amount label message es => ⟨exists_make_error_iff, fun r => sound_of_make⟩,
    fun r => make_of_sound, fun network text r h => ?_⟩
  exact ⟨(canonical_of_outcome h).sound, isFrom_of_outcome h⟩

theorem requests_are_sound_sample :
    (∃ r, make (some (.address sample)) (some 5) (some "") none [("x", "1"), ("x", "2")] = .ok r ∧ r.Sound) ∧
      ∃ r, (parseUri .mainnet "digibyte:DCxTHiSxiSxTHExSTUFFzzzzzzzzbSG1oo?amount=1.5&label=a&x=+").outcome =
        .ok r ∧ r.Sound ∧ r.IsFrom .mainnet := by
  obtain ⟨hmade, -, hread⟩ := requests_are_sound
  obtain ⟨r, hr⟩ := exists_of_isOk (x := (parseUri .mainnet
    "digibyte:DCxTHiSxiSxTHExSTUFFzzzzzzzzbSG1oo?amount=1.5&label=a&x=+").outcome) (by decide +kernel)
  have hmake : make (some (.address sample)) (some 5) (some "") none [("x", "1"), ("x", "2")] =
      .ok ⟨.address sample, some 5, none, none, [("x", "2")]⟩ := rfl
  exact ⟨⟨_, hmake, ((hmade _ _ _ _ _).2 _ hmake).2⟩, r, hr, hread _ _ r hr⟩

end PaymentRequest

end PaymentUri
