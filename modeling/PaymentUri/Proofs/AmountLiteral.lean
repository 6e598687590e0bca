import PaymentUri.Proofs.Amount

namespace PaymentUri

open Text

variable {shown : String} {d : Decimal} {l : Literal} {n : Int}

/-- A literal spells an amount if no fraction of a unit is left and there are not too many digits when
it is counted in units. Precision goes by the digits written behind the point, zeros included; size
goes by those from the first that is not zero. -/
def Text.Literal.IsAmount (l : Literal) (n : Int) : Prop :=
  ∃ shift : Nat, (shift : Int) = l.exponent - l.fraction.length + 8 ∧
    digitCount l.digits + shift ≤ 40 ∧
    n = if l.negative then -((l.digits * 10 ^ shift : Nat) : Int) else (l.digits * 10 ^ shift : Nat)

namespace Amount

theorem isAmount_iff : l.IsAmount n ↔ ofDecimal shown l.value = .ok n := by
  rw [ofDecimal_eq_ok_iff]
  constructor
  · rintro ⟨shift, hshift, hcount, rfl⟩
    have he : l.value.exponent + places = shift := hshift.symm
    rw [units, he, Int.toNat_natCast]
    refine ⟨⟨Int.natCast_nonneg shift, ?_⟩, rfl⟩
    exact_mod_cast hcount
  · rintro ⟨⟨hs, hcount⟩, rfl⟩
    obtain ⟨shift, he⟩ := Int.eq_ofNat_of_zero_le hs
    rw [he] at hcount
    rw [units, he, Int.toNat_natCast]
    exact ⟨shift, he.symm, by exact_mod_cast hcount, rfl⟩

theorem ofDecimal_cases (shown : String) (d : Decimal) :
    (∃ n, ofDecimal shown d = .ok n) ∨ ofDecimal shown d = .error (.notDecimal shown) ∨
      ofDecimal shown d = .error (.tooPrecise shown) ∨ ofDecimal shown d = .error (.tooLarge shown) := by
  rw [ofDecimal]
  split
  next => exact .inr (.inl rfl)
  next =>
    dsimp only
    split
    next => exact .inr (.inr (.inl rfl))
    next =>
      split
      next => exact .inr (.inr (.inr rfl))
      next => exact .inl ⟨_, rfl⟩

/-- What is read from a text is what the literals of the grammar spell, exactly; any other text is
refused as one that is no decimal, too precise or too large. -/
theorem parse_accepts_literals (text : String) :
    (∀ n, parse text = .ok n ↔ ∃ l : Literal, l.IsSpelt text.toList ∧ l.IsAmount n) ∧
      ((∃ n, parse text = .ok n) ∨ parse text = .error (.notDecimal (quoted text)) ∨
        parse text = .error (.tooPrecise (quoted text)) ∨ parse text = .error (.tooLarge (quoted text))) := by
  refine ⟨fun n => ⟨fun h => ?_, ?_⟩, ?_⟩
  · rw [parse] at h
    split at h
    next => cases h
    next d hd =>
      obtain ⟨l, hl, rfl⟩ := Decimal.read?_eq_some_iff.mp hd
      exact ⟨l, hl, isAmount_iff.mpr h⟩
  · rintro ⟨l, hl, hn⟩
    rw [parse, Decimal.read?_of_isSpelt hl]
    exact isAmount_iff.mp hn
  · rw [parse]
    split
    next => exact .inr (.inl rfl)
    next d hd => exact ofDecimal_cases _ d

end Amount

end PaymentUri
