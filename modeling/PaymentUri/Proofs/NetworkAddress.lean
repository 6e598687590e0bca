import PaymentUri.Proofs.RoundTrip
import PaymentUri.Proofs.Stages

namespace PaymentUri

variable {network other : Network} {text : String} {hash : List UInt8} {version : Int} {payee : Payee}

namespace Network

/-- What keeps the known networks apart, as they share their scheme. -/
theorem not_accepts_of_known (hn : network ∈ known) (ho : other ∈ known) (hne : (network == other) = false)
    (hv : network.accepts version = true) : other.accepts version = false := by
  have hall : ∀ n ∈ known, ∀ o ∈ known, (n == o) = false → ∀ v ∈ n.acceptedVersions, o.accepts v = false := by
    decide
  exact hall network hn other ho hne version (List.contains_iff_mem.mp hv)

theorem scheme_of_known (h : network ∈ known) : network.scheme = defaultScheme := by
  have hall : ∀ n ∈ known, n.scheme = defaultScheme := by decide
  exact hall network h

end Network

namespace Address

def headerOf (network : Network) (script : Bool) : Int :=
  if script then network.scriptVersion else network.addressVersion

theorem header_of_known (h : network ∈ Network.known) (script : Bool) :
    (0 ≤ headerOf network script ∧ headerOf network script < 256) ∧
      network.accepts (headerOf network script) = true ∧
      (headerOf network script != network.addressVersion) = script := by
  have hall : ∀ n ∈ Network.known, ∀ script, (0 ≤ headerOf n script ∧ headerOf n script < 256) ∧
      n.accepts (headerOf n script) = true ∧ (headerOf n script != n.addressVersion) = script := by
    decide
  exact hall network h script

theorem encode_eq (hlength : hash.length = hashLength) (script : Bool) :
    encode network hash script = encodeChecked (headerOf network script) hash := by
  rw [encode, if_pos hlength]
  rfl

theorem encodeChecked_natCast {n : Nat} (hn : n < 256) (payload : List UInt8) :
    encodeChecked n payload = .ok (Base58.encodeChecked (UInt8.ofNat n) payload) := by
  rw [encodeChecked, if_pos ⟨Int.natCast_nonneg n, by omega⟩, Int.toNat_natCast]

theorem decode_of_encode (h : network ∈ Network.known) (script : Bool) (hlength : hash.length = hashLength) :
    ∃ text a, encode network hash script = .ok text ∧ decode network text = .ok a ∧ a.hash = hash ∧
      a.isScript = script := by
  obtain ⟨⟨hpos, hlt⟩, haccepted, hscript⟩ := header_of_known h script
  obtain ⟨n, hn⟩ := Int.eq_ofNat_of_zero_le hpos
  rw [hn] at hlt haccepted hscript
  have hbyte : n < 256 := by omega
  have hcast : ((UInt8.ofNat n).toNat : Int) = n := by rw [UInt8.toNat_ofNat_of_lt' hbyte]
  have hwritten : encode network hash script = .ok (Base58.encodeChecked (UInt8.ofNat n) hash) := by
    rw [encode_eq hlength, hn, encodeChecked_natCast hbyte]
  have hread := decode_eq_ok_iff.mpr ⟨UInt8.ofNat n, hash, hcast ▸ haccepted, hlength, rfl, rfl⟩
  refine ⟨_, _, hwritten, hread, rfl, ?_⟩
  rw [isScript, hcast]
  exact hscript

theorem decode_other (hn : network ∈ Network.known) (ho : other ∈ Network.known)
    (hne : (network == other) = false) {a : Address} (h : decode network text = .ok a) :
    ∃ version, decode other text = .error (.wrongVersion other version) := by
  obtain ⟨version, hash, haccepted, hlength, hwritten, -⟩ := decode_eq_ok_iff.mp h
  have hother := Network.not_accepts_of_known hn ho hne haccepted
  refine ⟨version.toNat, ?_⟩
  rw [decode, Base58.decodeChecked_eq_ok_iff.mpr hwritten]
  simp only [hlength, hother, ne_eq, not_true_eq_false, if_false, Bool.false_eq_true]

end Address

theorem outcome_offline (network : Network) (text : String) :
    (offline network text).outcome = (Address.decode network text).map .address := rfl

theorem outcome_offline_eq_ok_iff :
    (offline network text).outcome = .ok payee ↔
      ∃ a, Address.decode network text = .ok a ∧ payee = .address a := by
  rw [outcome_offline]
  cases Address.decode network text with
  | ok a => simp [Except.map, eq_comm]
  | error cause => simp [Except.map]

/-- An address is resolved offline exactly when a version of the network is written in it with twenty
bytes, and then as that. What is written for a hash on a known network is resolved to it, and no text
is a payment URI of two known networks: the other one refuses its address. -/
theorem offline_resolves_own_addresses :
    (∀ network text payee, (offline network text).outcome = .ok payee ↔
      ∃ (version : UInt8) (hash : List UInt8), (version.toNat : Int) ∈ network.acceptedVersions ∧
        hash.length = 20 ∧ Base58.encodeChecked version hash = text ∧
          payee = .address ⟨network, version.toNat, hash, text⟩) ∧
      (∀ network ∈ Network.known, ∀ (hash : List UInt8) (script : Bool), hash.length = 20 →
        ∃ text a, Address.encode network hash script = .ok text ∧
          (offline network text).outcome = .ok (.address a) ∧ a.hash = hash ∧ a.isScript = script) ∧
      ∀ network ∈ Network.known, ∀ other ∈ Network.known, (network == other) = false →
        ∀ text r, (parseUri network text).outcome = .ok r →
          ∃ version, (parseUri other text).outcome = .error (.badAddress (.wrongVersion other version)) := by
  refine ⟨?_, ?_, ?_⟩
  · intro network text payee
    rw [outcome_offline_eq_ok_iff]
    constructor
    · rintro ⟨a, ha, rfl⟩
      obtain ⟨version, hash, haccepted, hlength, hwritten, rfl⟩ := Address.decode_eq_ok_iff.mp ha
      exact ⟨version, hash, List.contains_iff_mem.mp haccepted, hlength, hwritten, rfl⟩
    · rintro ⟨version, hash, haccepted, hlength, hwritten, rfl⟩
      have haccepts := List.contains_iff_mem.mpr haccepted
      exact ⟨_, Address.decode_eq_ok_iff.mpr ⟨version, hash, haccepts, hlength, hwritten, rfl⟩, rfl⟩
  · intro network hn hash script hlength
    obtain ⟨text, a, hwritten, ha, hhash, hscript⟩ := Address.decode_of_encode hn script hlength
    exact ⟨text, a, hwritten, outcome_offline_eq_ok_iff.mpr ⟨a, ha, rfl⟩, hhash, hscript⟩
  · intro network hn other ho hne text r h
    obtain ⟨draft, payee, hdraft, hpayee⟩ := exists_draft_of_outcome h
    obtain ⟨a, ha, -⟩ := outcome_offline_eq_ok_iff.mp hpayee
    obtain ⟨version, hrefused⟩ := Address.decode_other hn ho hne ha
    rw [Network.scheme_of_known hn, ← Network.scheme_of_known ho] at hdraft
    refine ⟨version, parseUri_of_resolve_error hdraft ?_⟩
    rw [outcome_offline, hrefused]
    rfl

theorem offline_resolves_own_addresses_sample :
    (∃ text a, Address.encode .testnet sample.hash true = .ok text ∧
        (offline .testnet text).outcome = .ok (.address a) ∧ a.hash = sample.hash ∧ a.isScript = true) ∧
      ∃ version, (parseUri .testnet "digibyte:DCxTHiSxiSxTHExSTUFFzzzzzzzzbSG1oo?amount=2").outcome =
        .error (.badAddress (.wrongVersion .testnet version)) := by
  have hmainnet : Network.mainnet ∈ Network.known := by simp [Network.known]
  have htestnet : Network.testnet ∈ Network.known := by simp [Network.known]
  obtain ⟨r, hr⟩ := exists_of_isOk (x := (parseUri .mainnet
    "digibyte:DCxTHiSxiSxTHExSTUFFzzzzzzzzbSG1oo?amount=2").outcome) (by decide +kernel)
  exact ⟨offline_resolves_own_addresses.2.1 _ htestnet sample.hash true (by decide),
    offline_resolves_own_addresses.2.2 _ hmainnet _ htestnet rfl _ r hr⟩

end PaymentUri
