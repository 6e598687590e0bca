import PaymentUri.Proofs.Rendering

namespace PaymentUri

open Text

variable {cs ds : List Char} {m : Nat} {e : Int} {d d' : Decimal} {n : Int}

namespace Text

theorem Decimal.trimZeros_eq (k : Nat) (d : Decimal) :
    ∃ moved m, moved ≤ k ∧ m * 10 ^ moved = d.digits ∧ (moved < k → m % 10 ≠ 0) ∧
      Decimal.trimZeros k d = ⟨d.negative, m, d.exponent + moved⟩ := by
  induction k generalizing d with
  | zero => exact ⟨0, d.digits, le_rfl, by simp, by simp, by simp [Decimal.trimZeros]⟩
  | succ k ih =>
      rw [Decimal.trimZeros]
      split
      next hzero =>
        obtain ⟨moved, m, hle, hm, hlast, he⟩ :=
          ih { d with digits := d.digits / 10, exponent := d.exponent + 1 }
        refine ⟨moved + 1, m, by omega, ?_, fun h => hlast (by omega), ?_⟩
        · rw [Nat.pow_succ, ← Nat.mul_assoc, hm]
          dsimp only
          omega
        · rw [he]
          simp only [Decimal.mk.injEq, true_and]
          omega
      next hne => exact ⟨0, d.digits, by omega, by simp, fun _ => hne, by simp⟩

def Spells (cs : List Char) (m : Nat) (e : Int) : Prop :=
  ∃ mantissa tail whole fraction exponent, IsMantissa mantissa whole fraction ∧
    IsExponent tail exponent ∧ cs = mantissa ++ tail ∧ ofDigits (whole ++ fraction) = m ∧
    exponent - fraction.length = e

theorem Spells.read?_signed (h : Spells cs m e) (negative : Bool) :
    Decimal.read? (signed negative cs) = some ⟨negative, m, e⟩ := by
  obtain ⟨mantissa, tail, whole, fraction, exponent, hm, he, rfl, rfl, rfl⟩ := h
  exact Decimal.read?_signed negative hm he

theorem spells_behind_point (hd : IsDigits ds) (k : Nat) :
    Spells ('0' :: '.' :: List.replicate k '0' ++ ds) (ofDigits ds) (-k - ds.length) := by
  have hfraction : ∀ c ∈ List.replicate k '0' ++ ds, c.isDigit = true :=
    List.forall_mem_append.mpr ⟨fun _ => isDigit_of_mem_zeros, hd.2⟩
  refine ⟨_, [], ['0'], _, 0, .point _ _ (by simp [IsDigits]) hfraction, .absent, by simp, ?_, ?_⟩
  · rw [← List.append_assoc, ofDigits_append, List.singleton_append, ← List.replicate_succ,
      ofDigits_zeros, Nat.mul_zero, Nat.zero_add]
  · rw [List.length_append, List.length_replicate]
    omega

theorem spells_around_point (hd : IsDigits ds) {k : Nat} (hpos : 0 < k) (hk : k ≤ ds.length) :
    Spells (ds.take k ++ if ds.drop k = [] then [] else '.' :: ds.drop k) (ofDigits ds) (k - ds.length) := by
  have hwhole : IsDigits (ds.take k) := by
    refine ⟨fun h => ?_, fun c hc => hd.2 c (List.mem_of_mem_take hc)⟩
    have hl := congrArg List.length h
    rw [List.length_take, List.length_nil] at hl
    omega
  have hfraction : ∀ c ∈ ds.drop k, c.isDigit = true := fun c hc => hd.2 c (List.mem_of_mem_drop hc)
  split
  next hnil =>
    refine ⟨_, [], _, [], 0, .whole _ hwhole, .absent, rfl, ?_, ?_⟩
    · rw [← hnil, List.take_append_drop]
    · rw [List.drop_eq_nil_iff] at hnil
      simp only [List.length_nil]
      omega
  next =>
    refine ⟨_, [], _, _, 0, .point _ _ hwhole hfraction, .absent, by simp, ?_, ?_⟩
    · rw [List.take_append_drop]
    · rw [List.length_drop]
      omega

theorem spells_positionalText (hd : IsDigits ds) {point : Int} (hp : point ≤ ds.length) :
    Spells (positionalText "" ds point) (ofDigits ds) (point - ds.length) := by
  rw [positionalText]
  split
  next hneg =>
    have h := spells_behind_point hd point.natAbs
    rwa [Int.ofNat_natAbs_of_nonpos hneg, Int.neg_neg] at h
  next hpos =>
    obtain ⟨k, rfl⟩ := Int.eq_ofNat_of_zero_le (Int.le_of_not_le hpos)
    have hk : k ≤ ds.length := by omega
    have h := spells_around_point hd (by omega) hk
    -- No zeros are missing in front of the point.
    simpa only [Int.toNat_natCast, Nat.sub_eq_zero_of_le hk, List.replicate_zero, List.append_nil,
      String.toList_empty] using h

theorem isExponent_padded (e : Int) :
    IsExponent ('E' :: (if e < 0 then '-' else '+') :: padded 1 (Nat.toDigits 10 e.natAbs)) e := by
  have hd : IsDigits (padded 1 (Nat.toDigits 10 e.natAbs)) :=
    ⟨List.append_ne_nil_of_right_ne_nil _ Nat.toDigits_ne_nil, fun c hc => isDigit_of_mem_padded hc⟩
  by_cases hneg : e < 0
  · have h := IsExponent.marked 'E' ['-'] _ true (.inr rfl) .minus hd
    rw [ofDigits_padded, if_pos rfl, Int.ofNat_natAbs_of_nonpos hneg.le, Int.neg_neg] at h
    rw [if_pos hneg]
    exact h
  · have h := IsExponent.marked 'E' ['+'] _ false (.inr rfl) .plus hd
    rw [ofDigits_padded, if_neg Bool.false_ne_true, Int.natAbs_of_nonneg (Int.not_lt.mp hneg)] at h
    rw [if_neg hneg]
    exact h

theorem spells_exponentText (hd : IsDigits ds) (e : Int) :
    Spells (exponentText 'E' 1 ds e) (ofDigits ds) (e + 1 - ds.length) := by
  obtain ⟨c, cs, hc, rfl⟩ := hd.exists_cons
  have hwhole : IsDigits [c] := by simp [IsDigits, hc]
  rw [exponentText]
  split
  next hl =>
    have hnil : cs = [] := by simpa using hl
    subst hnil
    exact ⟨[c], _, [c], [], e, .whole _ hwhole, isExponent_padded e, by simp, rfl, by simp⟩
  next =>
    refine ⟨[c] ++ '.' :: cs, _, [c], cs, e, .point _ _ hwhole ?_, isExponent_padded e, by simp, rfl, ?_⟩
    · exact fun b hb => hd.2 b (List.mem_cons_of_mem c hb)
    · simp only [List.length_cons]
      omega

end Text

namespace Amount

theorem spells_decimalLayout (hd : IsDigits ds) {point : Int} (hp : point ≤ ds.length) :
    Spells (if decimalLayout.positional point then positionalText decimalLayout.wholeSuffix ds point
      else exponentText decimalLayout.exponentMark decimalLayout.exponentWidth ds (point - 1))
      (ofDigits ds) (point - ds.length) := by
  split
  next => exact spells_positionalText hd hp
  next =>
    have h := spells_exponentText hd (point - 1)
    rwa [Int.sub_add_cancel] at h

/-- A decimal is read back from its text, with or without an exponent in it, unless zeros would have to
follow its digits. -/
theorem read?_decimalLayout (h : d.exponent ≤ 0) :
    Decimal.read? (decimalLayout.write d).toList = some d := by
  have hp : (Nat.toDigits 10 d.digits).length + d.exponent ≤ (Nat.toDigits 10 d.digits).length := by
    omega
  have hspells := spells_decimalLayout (isDigits_toDigits d.digits) hp
  rw [ofDigits_toDigits, add_sub_cancel_left] at hspells
  rw [Layout.write, String.toList_ofList]
  exact hspells.read?_signed d.negative

/-- A decimal that counts the coins of an amount exactly, without zeros at the end of its fraction. -/
structure IsExact (d : Decimal) (n : Int) : Prop where
  value : (-1) ^ d.negative.toNat * (d.digits : Int) * 10 ^ (d.exponent + 8).toNat = n
  zero : n = 0 → d.negative = false
  low : -8 ≤ d.exponent
  high : d.exponent ≤ 0
  last : d.exponent < 0 → d.digits % 10 ≠ 0

theorem IsExact.units_eq (h : IsExact d n) : units d = n := by
  rw [← h.value, units]
  cases d.negative <;> simp [places]

theorem IsExact.negative_eq (h : IsExact d n) : d.negative = decide (n < 0) := by
  have hunits := h.units_eq
  have hzero := h.zero
  rw [units] at hunits
  cases hnegative : d.negative with
  | true =>
      rw [hnegative] at hunits hzero
      have hn : n ≠ 0 := fun hn => Bool.noConfusion (hzero hn)
      rw [if_pos rfl] at hunits
      exact (decide_eq_true (by omega)).symm
  | false =>
      rw [hnegative, if_neg Bool.false_ne_true] at hunits
      exact (decide_eq_false (by omega)).symm

theorem IsExact.magnitude_eq (h : IsExact d n) (h' : IsExact d' n) :
    d.digits * 10 ^ (d.exponent + places).toNat = d'.digits * 10 ^ (d'.exponent + places).toNat := by
  rw [← natAbs_units, ← natAbs_units, h.units_eq, h'.units_eq]

theorem IsExact.exponent_le (h : IsExact d n) (h' : IsExact d' n) : d'.exponent ≤ d.exponent := by
  by_contra hlt
  have hlow := h.low
  have hhigh := h'.high
  obtain ⟨k, hk⟩ : ∃ k : Nat, d'.exponent = d.exponent + (k + 1) :=
    ⟨(d'.exponent - d.exponent - 1).toNat, by omega⟩
  have hshift : (d'.exponent + places).toNat = (k + 1) + (d.exponent + places).toNat := by
    simp only [places]
    omega
  have hvalue := h.magnitude_eq h'
  rw [hshift, Nat.pow_add, ← Nat.mul_assoc] at hvalue
  have hdigits : d.digits = d'.digits * 10 ^ (k + 1) :=
    Nat.eq_of_mul_eq_mul_right (Nat.pow_pos (by decide)) hvalue
  -- The digits of the finer decimal end in a zero, although some of them stand behind its point.
  apply h.last (by omega)
  rw [hdigits, Nat.pow_succ, ← Nat.mul_assoc, Nat.mul_mod_left]

theorem IsExact.unique (h : IsExact d n) (h' : IsExact d' n) : d = d' := by
  have hexponent : d.exponent = d'.exponent := Int.le_antisymm (h'.exponent_le h) (h.exponent_le h')
  have hnegative := h.negative_eq.trans h'.negative_eq.symm
  have hvalue := h.magnitude_eq h'
  rw [hexponent] at hvalue
  have hdigits := Nat.eq_of_mul_eq_mul_right (Nat.pow_pos (by decide)) hvalue
  cases d
  cases d'
  simp_all

theorem isExact_of_units (hunits : units d = n) (hnegative : d.negative = decide (n < 0))
    (low : -8 ≤ d.exponent) (high : d.exponent ≤ 0) (last : d.exponent < 0 → d.digits % 10 ≠ 0) :
    IsExact d n := by
  refine ⟨?_, ?_, low, high, last⟩
  · rw [← hunits, units]
    cases d.negative <;> simp [places]
  · rintro rfl
    exact hnegative

theorem isExact_toDecimal (n : Int) : IsExact (toDecimal n) n := by
  obtain ⟨moved, m, hle, hm, hlast, he⟩ :=
    Decimal.trimZeros_eq places ⟨decide (n < 0), n.natAbs, -places⟩
  rw [toDecimal, he]
  have hshift : (-(places : Int) + moved + places).toNat = moved := by omega
  simp only [places] at hle hlast
  refine isExact_of_units ?_ rfl ?_ ?_ ?_
  · rw [units, hshift]
    simp only [hm, decide_eq_true_eq]
    split <;> omega
  · simp only [places]
    omega
  · simp only [places]
    omega
  · intro hneg
    simp only [places] at hneg
    exact hlast (by omega)

theorem isExact_spelt (n : Int) : IsExact (spelt n (fractionText n)) n := by
  have hrest := isRest_fractionText n
  have hl := hrest.length_le
  simp only [places] at hl
  refine isExact_of_units hrest.units_spelt rfl ?_ (by simp [spelt]) ?_
  · simp only [spelt]
    omega
  · intro hneg
    have hne : fractionText n ≠ [] := by
      intro hnil
      simp [spelt, hnil] at hneg
    have hlast : ¬((fractionText n).getLast hne == '0') = true := List.rdropWhile_last_not _ _ hne
    have hdigit := hrest.isDigit _ (List.getLast_mem hne)
    have hpos := digit_pos hdigit (by simpa using hlast)
    have hlt := digit_lt hdigit
    rw [spelt]
    dsimp only
    rw [← List.dropLast_concat_getLast hne, ← List.append_assoc, ofDigits_concat]
    omega

theorem toDecimal_eq_spelt (n : Int) : toDecimal n = spelt n (fractionText n) :=
  (isExact_toDecimal n).unique (isExact_spelt n)

/-- An amount as a decimal is exact and in lowest terms, and its own text is read back like the other
two. -/
theorem toDecimal_is_exact (n : Int) (h : n.natAbs < 10 ^ 4000) :
    HasText n ∧ Decimal.read? (plain n).toList = some (toDecimal n) ∧ representable (toDecimal n) ∧
      IsExact (toDecimal n) n ∧
      parse (decimalText n) =
        if n.natAbs < 10 ^ 40 then .ok n else .error (.tooLarge (quoted (decimalText n))) := by
  have hexact := isExact_toDecimal n
  have hrest := isRest_fractionText n
  refine ⟨hasText_of_lt (by decide) (lt_of_le_of_lt (Nat.div_le_self _ _) h), ?_, ?_, hexact, ?_⟩
  · rw [toDecimal_eq_spelt, read?_plain]
  · refine representable_of_lt (k := 4000) ?_ hexact.high (by decide) (by decide) (by rwa [hexact.units_eq])
    have hlow := hexact.low
    simp only [places]
    omega
  · rw [parse, decimalText, read?_decimalLayout hexact.high, toDecimal_eq_spelt]
    exact hrest.ofDecimal_spelt_eq (by decide) (by decide) h

theorem toDecimal_is_exact_sample :
    (1 : Int).natAbs < 10 ^ 4000 ∧ toDecimal 1 = ⟨false, 1, -8⟩ ∧ decimalText 1 = "1E-8" ∧
      parse (decimalText 1) = .ok 1 := by
  have hlarge : 10 ^ 1 ≤ 10 ^ 4000 := pow_le_pow_right₀ (by decide) (by decide)
  have h : (1 : Int).natAbs < 10 ^ 4000 := lt_of_lt_of_le (by decide) hlarge
  exact ⟨h, by decide, by decide, (toDecimal_is_exact 1 h).2.2.2.2.trans (if_pos (by decide))⟩

end Amount

end PaymentUri
