import PaymentUri.Address
import PaymentUri.Escape
import PaymentUri.Proofs.Base58

namespace PaymentUri

variable {network : Network} {text : String} {a : Address}

namespace Base58

theorem isUnreserved_of_mem_alphabet {c : Char} (h : c ∈ alphabet) : Escape.isUnreserved c = true :=
  List.all_eq_true.mp (by decide : alphabet.all Escape.isUnreserved = true) c h

end Base58

namespace Address

/-- A text is an address of a network when it is how one of the versions of that network and a hash of
the right length are written. -/
theorem decode_eq_ok_iff :
    decode network text = .ok a ↔
      ∃ version hash, network.accepts version.toNat = true ∧ hash.length = hashLength ∧
        Base58.encodeChecked version hash = text ∧ a = ⟨network, version.toNat, hash, text⟩ := by
  rw [decode]
  constructor
  · intro h
    split at h
    next => cases h
    next version hash hd =>
      split at h
      next => cases h
      next hlength =>
        split at h
        next haccepted =>
          cases h
          exact ⟨version, hash, haccepted, not_not.mp hlength, Base58.decodeChecked_eq_ok_iff.mp hd, rfl⟩
        next => cases h
  · rintro ⟨version, hash, haccepted, hlength, hwritten, rfl⟩
    rw [Base58.decodeChecked_eq_ok_iff.mpr hwritten]
    simp only [hlength, haccepted, ne_eq, not_true_eq_false, if_false, if_true]

theorem eq_of_decode (h : decode network text = .ok a) : a.network = network ∧ a.text = text := by
  obtain ⟨version, hash, -, -, -, rfl⟩ := decode_eq_ok_iff.mp h
  exact ⟨rfl, rfl⟩

theorem isUnreserved_of_decode (h : decode network text = .ok a) :
    ∀ c ∈ text.toList, Escape.isUnreserved c = true := by
  intro c hc
  obtain ⟨version, hash, -, -, hwritten, -⟩ := decode_eq_ok_iff.mp h
  have hread := Base58.decodeChecked_eq_ok_iff.mpr hwritten
  exact Base58.isUnreserved_of_mem_alphabet (Base58.mem_alphabet_of_decodeChecked hread c hc)

theorem ne_empty_of_decode (h : decode network text = .ok a) : text ≠ "" := by
  rintro rfl
  have he : decode network "" = .error (.badText .tooShort) := rfl
  rw [he] at h
  cases h

theorem not_slashes_of_decode (h : decode network text = .ok a) (rest : List Char) :
    ¬['/', '/'] <+: text.toList ++ rest := by
  have hne : text.toList ≠ [] := mt String.toList_eq_nil_iff.mp (ne_empty_of_decode h)
  have hunreserved := isUnreserved_of_decode h
  obtain ⟨c, cs, hc⟩ := List.exists_cons_of_ne_nil hne
  rw [hc] at hunreserved ⊢
  intro hprefix
  rw [List.cons_append, List.cons_prefix_cons] at hprefix
  have hslash := hunreserved c List.mem_cons_self
  rw [← hprefix.1] at hslash
  exact absurd hslash (by decide)

end Address

end PaymentUri
