import PaymentUri.Proofs.RoundTrip

namespace PaymentUri

variable {network : Network} {a : Address} {key value u : String}

/-- The text of a URI with one parameter, whatever its key is. -/
def extraUri (a : Address) (key value : String) : String :=
  a.network.scheme ++ ":" ++ a.text ++ "?" ++ key ++ "=" ++ Escape.encode value

theorem uriText_singleton (a : Address) (key value : String) :
    uriText (.address a) [(key, value)] = extraUri a key value := by
  rw [uriText, if_neg (by simp), extraUri]
  simp [parameterText, Payee.scheme, Payee.display, String.append_assoc]

theorem buildUri_extra_eq_ok_iff :
    buildUri (.address a) none none none none [(key, value)] = .ok u ↔
      Writable (key, value) ∧ u = extraUri a key value := by
  rw [buildUri_eq_ok_iff, List.forall_mem_singleton, ← uriText_singleton]
  exact and_iff_right rfl

theorem canonical_extra (h : Writable (key, value)) (whom : Payee) :
    (PaymentRequest.mk whom none none none [(key, value)]).Canonical where
  amount := by
    rintro n ⟨⟩
  label := (Option.some_ne_none "").symm
  message := (Option.some_ne_none "").symm
  nodup := by simp
  writable := List.forall_mem_singleton.mpr h

theorem readable_iff (hscheme : isUriText network.scheme = true) (hcolon : ':' ∉ network.scheme.toList)
    (ha : Address.decode network a.text = .ok a) :
    (∃ r, (parseUri network (extraUri a key value)).outcome = .ok r ∧ r.extras = [(key, value)]) ↔
      Writable (key, value) := by
  constructor
  · rintro ⟨r, hr, hextras⟩
    refine (PaymentRequest.canonical_of_outcome hr).writable (key, value) ?_
    rw [hextras]
    exact List.mem_cons_self
  · intro h
    have hread := PaymentRequest.parseUri_uriText (canonical_extra h (.address a)) hscheme hcolon ha rfl
    rw [← uriText_singleton]
    exact ⟨_, hread, rfl⟩

theorem extraParameter_error {fault : BuildError} (h : extraParameter key value = .error fault) :
    fault ∈ [.reservedKey key, .illegalKey (Text.quoted key), .requiredKey key] := by
  rw [extraParameter] at h
  split at h
  next =>
    cases h
    simp
  split at h
  next =>
    cases h
    simp
  split at h
  next =>
    cases h
    simp
  next => cases h

/-- A parameter is refused, for its key, exactly when it could not be read back, and otherwise it is
written as it stands. -/
theorem buildUri_extra_iff (network : Network) (a : Address) (key value : String)
    (hscheme : isUriText network.scheme = true) (hcolon : ':' ∉ network.scheme.toList)
    (ha : Address.decode network a.text = .ok a) :
    ((∃ u, buildUri (.address a) none none none none [(key, value)] = .ok u) ↔
        ∃ r, (parseUri network (extraUri a key value)).outcome = .ok r ∧ r.extras = [(key, value)]) ∧
      (∀ u, buildUri (.address a) none none none none [(key, value)] = .ok u →
        u = extraUri a key value) ∧
      ∀ fault, buildUri (.address a) none none none none [(key, value)] = .error fault →
        fault ∈ [.reservedKey key, .illegalKey (Text.quoted key), .requiredKey key] := by
  refine ⟨?_, fun u hu => (buildUri_extra_eq_ok_iff.mp hu).2, fun fault hfault => ?_⟩
  · rw [readable_iff hscheme hcolon ha]
    constructor
    · rintro ⟨u, hu⟩
      exact (buildUri_extra_eq_ok_iff.mp hu).1
    · intro h
      exact ⟨_, buildUri_extra_eq_ok_iff.mpr ⟨h, rfl⟩⟩
  · rcases buildUri_error hfault with ⟨hneg, -⟩ | ⟨e, he, hkey⟩
    · cases hneg
    · rw [List.mem_singleton.mp he] at hkey
      exact extraParameter_error hkey

-- The escape that the second key leaves open would swallow the equals sign behind it.
theorem buildUri_extra_iff_sample :
    (∃ r, (parseUri .mainnet "digibyte:DCxTHiSxiSxTHExSTUFFzzzzzzzzbSG1oo?x:y=a%20b").outcome = .ok r ∧
        r.extras = [("x:y", "a b")]) ∧
      ¬∃ r, (parseUri .mainnet "digibyte:DCxTHiSxiSxTHExSTUFFzzzzzzzzbSG1oo?a%2=b").outcome = .ok r ∧
        r.extras = [("a%2", "b")] := by
  have hread := (buildUri_extra_iff .mainnet sample "x:y" "a b" (by decide) (by decide) decode_sample).1
  have hlost := (buildUri_extra_iff .mainnet sample "a%2" "b" (by decide) (by decide) decode_sample).1
  have hwritable : Writable ("x:y", "a b") := ⟨by decide, by decide, by decide⟩
  refine ⟨hread.mp ⟨_, buildUri_extra_eq_ok_iff.mpr ⟨hwritable, rfl⟩⟩, mt hlost.mpr ?_⟩
  rintro ⟨u, hu⟩
  have hspelled : isQueryKey "a%2" = false := by decide
  rw [(buildUri_extra_eq_ok_iff.mp hu).1.spelled] at hspelled
  cases hspelled

end PaymentUri
