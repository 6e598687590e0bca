import PaymentUri.Amount
import PaymentUri.Escape
import PaymentUri.Proofs.Literal
import Mathlib.Tactic.Ring

namespace PaymentUri.Amount

open Text

variable {shown : String} {d : Decimal} {n : Int} {ds : List Char}

def units (d : Decimal) : Int :=
  let magnitude := d.digits * 10 ^ (d.exponent + places).toNat
  if d.negative then -magnitude else magnitude

theorem representable_of_le (hs : 0 ≤ d.exponent + places)
    (hd : digitCount d.digits + d.exponent ≤ 1000000000000000000) : representable d := by
  simp only [places] at hs
  rw [representable, Decimal.topExponent]
  omega

theorem ofDecimal_eq_ok_iff :
    ofDecimal shown d = .ok n ↔
      (0 ≤ d.exponent + places ∧ digitCount d.digits + (d.exponent + places) ≤ maxUnitDigits) ∧
        units d = n := by
  constructor
  · intro h
    rw [ofDecimal] at h
    split at h
    next => simp at h
    next =>
      by_cases hs : d.exponent + places < 0
      · rw [if_pos hs] at h
        simp at h
      · rw [if_neg hs] at h
        split at h
        next => simp at h
        next hd => exact ⟨⟨Int.not_lt.mp hs, Int.not_lt.mp hd⟩, Except.ok.inj h⟩
  · rintro ⟨⟨hs, hd⟩, rfl⟩
    have hrepresentable : representable d := by
      refine representable_of_le hs ?_
      simp only [places, maxUnitDigits] at hd
      omega
    rw [ofDecimal, if_neg (not_not.mpr hrepresentable)]
    simp only [if_neg (Int.not_lt.mpr hs), if_neg (Int.not_lt.mpr hd)]
    rfl

theorem digits_bound_iff {digits shift : Nat} (hs : shift < maxUnitDigits) :
    digitCount digits + shift ≤ maxUnitDigits ↔ digits * 10 ^ shift < 10 ^ maxUnitDigits := by
  have hp : 10 ^ maxUnitDigits = 10 ^ (maxUnitDigits - shift) * 10 ^ shift := by
    rw [← Nat.pow_add, Nat.sub_add_cancel hs.le]
  rw [hp, Nat.mul_lt_mul_right (Nat.pow_pos (by decide)), ← digitCount_le_iff (by omega)]
  omega

theorem natAbs_units (d : Decimal) :
    (units d).natAbs = d.digits * 10 ^ (d.exponent + places).toNat := by
  rw [units]
  split
  next => rw [Int.natAbs_neg, Int.natAbs_natCast]
  next => rw [Int.natAbs_natCast]

theorem natAbs_lt_of_parse {text : String} (h : parse text = .ok n) :
    n.natAbs < 10 ^ maxUnitDigits := by
  rw [parse] at h
  split at h
  next => simp at h
  next d hd =>
    obtain ⟨⟨hs, hb⟩, rfl⟩ := ofDecimal_eq_ok_iff.mp h
    obtain ⟨shift, he⟩ := Int.eq_ofNat_of_zero_le hs
    have hc := digitCount_pos d.digits
    rw [he] at hb
    rw [natAbs_units, he, Int.toNat_natCast]
    exact (digits_bound_iff (by omega)).mp (by omega)

/-- An amount without a fraction of a unit is read if it is below the bound on its digits, and found
too large from there on. -/
theorem ofDecimal_of_small (hs : 0 ≤ d.exponent + places) (he : d.exponent ≤ 0)
    (h : (units d).natAbs < 10 ^ maxUnitDigits) : ofDecimal shown d = .ok (units d) := by
  refine ofDecimal_eq_ok_iff.mpr ⟨⟨hs, ?_⟩, rfl⟩
  obtain ⟨shift, hshift⟩ := Int.eq_ofNat_of_zero_le hs
  rw [natAbs_units, hshift, Int.toNat_natCast] at h
  rw [hshift]
  exact_mod_cast (digits_bound_iff (by simp only [places, maxUnitDigits] at hshift ⊢; omega)).mpr h

theorem representable_of_lt {k : Nat} (hs : 0 ≤ d.exponent + places) (he : d.exponent ≤ 0)
    (hk : 0 < k) (hk' : k ≤ 1000000000000000000) (hmax : (units d).natAbs < 10 ^ k) :
    representable d := by
  rw [natAbs_units] at hmax
  have hcount : digitCount d.digits ≤ k :=
    (digitCount_le_iff hk).mpr
      (lt_of_le_of_lt (Nat.le_mul_of_pos_right d.digits (Nat.pow_pos (by decide))) hmax)
  exact representable_of_le hs (by omega)

theorem ofDecimal_of_large {k : Nat} (hs : 0 ≤ d.exponent + places) (he : d.exponent ≤ 0)
    (hk : 0 < k) (hk' : k ≤ 1000000000000000000) (hmin : 10 ^ maxUnitDigits ≤ (units d).natAbs)
    (hmax : (units d).natAbs < 10 ^ k) : ofDecimal shown d = .error (.tooLarge shown) := by
  have hrepresentable := representable_of_lt hs he hk hk' hmax
  obtain ⟨shift, hshift⟩ := Int.eq_ofNat_of_zero_le hs
  rw [natAbs_units, hshift, Int.toNat_natCast] at hmin
  have hsmall : shift < maxUnitDigits := by
    simp only [places, maxUnitDigits] at hshift ⊢
    omega
  have hlarge : maxUnitDigits < digitCount d.digits + shift := by
    rw [← Nat.not_le, digits_bound_iff hsmall]
    exact Nat.not_lt.mpr hmin
  rw [ofDecimal, if_neg (not_not.mpr hrepresentable)]
  dsimp only
  rw [if_neg (Int.not_lt.mpr hs), hshift, if_pos (by exact_mod_cast hlarge)]

theorem fractionText_eq (n : Int) :
    fractionText n = (padded places (Nat.toDigits 10 (n.natAbs % coin))).rdropWhile (· == '0') :=
  rfl

theorem fraction_lt (n : Int) : n.natAbs % coin < 10 ^ places := Nat.mod_lt _ (by decide)

def filled (ds : List Char) : List Char := ds ++ List.replicate (places - ds.length) '0'

/-- Digits behind the point of an amount, complete but for zeros at their end. -/
structure IsRest (n : Int) (ds : List Char) : Prop where
  length_le : ds.length ≤ places
  filled_eq : filled ds = padded places (Nat.toDigits 10 (n.natAbs % coin))

theorem isRest_fractionText (n : Int) : IsRest n (fractionText n) := by
  have hl := length_padded (by decide) (fraction_lt n)
  have ha := List.rdropWhile_append_rtakeWhile (p := (· == '0'))
    (l := padded places (Nat.toDigits 10 (n.natAbs % coin)))
  rw [← fractionText_eq] at ha
  rw [← ha, List.length_append] at hl
  have hz : (padded places (Nat.toDigits 10 (n.natAbs % coin))).rtakeWhile (· == '0') =
      List.replicate (places - (fractionText n).length) '0' := by
    refine List.eq_replicate_iff.mpr ⟨by omega, fun c hc => ?_⟩
    simpa using List.mem_rtakeWhile_imp hc
  exact ⟨by omega, by rw [filled, ← hz, ha]⟩

namespace IsRest

theorem isDigit (h : IsRest n ds) : ∀ c ∈ ds, c.isDigit = true := by
  intro c hc
  apply isDigit_of_mem_padded
  rw [← h.filled_eq]
  exact List.mem_append_left _ hc

theorem fractionText_eq (h : IsRest n ds) : fractionText n = ds.rdropWhile (· == '0') := by
  rw [Amount.fractionText_eq, ← h.filled_eq, filled]
  induction places - ds.length with
  | zero => rw [List.replicate_zero, List.append_nil]
  | succ k ih => rw [List.replicate_succ', ← List.append_assoc, List.rdropWhile_concat,
        if_pos (beq_self_eq_true _), ih]

theorem ofDigits_mul (h : IsRest n ds) : ofDigits ds * 10 ^ (places - ds.length) = n.natAbs % coin := by
  have hvalue := congrArg ofDigits h.filled_eq
  rw [filled, ofDigits_padded, ofDigits_append, ofDigits_zeros, List.length_replicate, Nat.add_zero] at hvalue
  rw [Nat.mul_comm, hvalue]

theorem ofDigits_whole_mul (h : IsRest n ds) :
    ofDigits (Nat.toDigits 10 (n.natAbs / coin) ++ ds) * 10 ^ (places - ds.length) = n.natAbs := by
  calc
    _ = 10 ^ (ds.length + (places - ds.length)) * (n.natAbs / coin) +
        ofDigits ds * 10 ^ (places - ds.length) := by
      rw [ofDigits_append, ofDigits_toDigits, Nat.add_mul, Nat.pow_add]
      ring
    _ = coin * (n.natAbs / coin) + n.natAbs % coin := by
      rw [Nat.add_sub_of_le h.length_le, h.ofDigits_mul]
      rfl
    _ = n.natAbs := Nat.div_add_mod _ _

end IsRest

def spelt (n : Int) (ds : List Char) : Decimal where
  negative := n < 0
  digits := ofDigits (Nat.toDigits 10 (n.natAbs / coin) ++ ds)
  exponent := -ds.length

namespace IsRest

theorem shift_spelt (h : IsRest n ds) :
    (spelt n ds).exponent + places = ((places - ds.length : Nat) : Int) := by
  have hl := h.length_le
  simp only [spelt]
  omega

theorem units_spelt (h : IsRest n ds) : units (spelt n ds) = n := by
  rw [units, h.shift_spelt]
  simp only [spelt, Int.toNat_natCast, decide_eq_true_eq, h.ofDigits_whole_mul]
  split <;> omega

theorem ofDecimal_spelt (h : IsRest n ds) (hn : n.natAbs < 10 ^ maxUnitDigits) :
    ofDecimal shown (spelt n ds) = .ok n := by
  rw [← h.units_spelt] at hn
  rw [ofDecimal_of_small (by rw [h.shift_spelt]; omega) (by simp [spelt]) hn, h.units_spelt]

theorem eq_of_ofDecimal {m : Int} (h : IsRest n ds) (hm : ofDecimal shown (spelt n ds) = .ok m) :
    m = n := by
  obtain ⟨-, rfl⟩ := ofDecimal_eq_ok_iff.mp hm
  exact h.units_spelt

end IsRest

theorem wholeText_eq (n : Int) :
    wholeText n = signed (decide (n < 0)) (Nat.toDigits 10 (n.natAbs / coin)) := by
  rw [wholeText, signed]
  simp

theorem signed_append (negative : Bool) (xs ys : List Char) :
    signed negative xs ++ ys = signed negative (xs ++ ys) := by
  cases negative <;> rfl

theorem toList_plain (n : Int) :
    (plain n).toList = signed (decide (n < 0)) (Nat.toDigits 10 (n.natAbs / coin) ++
      if fractionText n = [] then [] else '.' :: fractionText n) := by
  rw [plain, String.toList_ofList, wholeText_eq, signed_append]

theorem read?_plain (n : Int) : Decimal.read? (plain n).toList = some (spelt n (fractionText n)) := by
  have hwhole := isDigits_toDigits (n.natAbs / coin)
  rw [toList_plain, ← List.append_nil (Nat.toDigits 10 _ ++ _)]
  split
  next hf =>
    rw [hf, List.append_nil, Decimal.read?_signed _ (.whole _ hwhole) .absent]
    rfl
  next hf =>
    rw [Decimal.read?_signed _ (.point _ _ hwhole (isRest_fractionText n).isDigit) .absent,
      Int.zero_sub]
    rfl

theorem parse_plain (h : n.natAbs < 10 ^ maxUnitDigits) : parse (plain n) = .ok n := by
  rw [parse, read?_plain]
  exact (isRest_fractionText n).ofDecimal_spelt h

theorem eq_of_parse_plain {m : Int} (h : parse (plain n) = .ok m) : m = n := by
  rw [parse, read?_plain] at h
  exact (isRest_fractionText n).eq_of_ofDecimal h

theorem isUnreserved_of_isDigit {c : Char} (h : c.isDigit = true) : Escape.isUnreserved c = true := by
  simp [Escape.isUnreserved, Char.isAlphanum, h]

theorem isUnreserved_of_mem_plain {c : Char} (h : c ∈ (plain n).toList) :
    Escape.isUnreserved c = true := by
  have hwhole : ∀ c ∈ Nat.toDigits 10 (n.natAbs / coin), Escape.isUnreserved c = true :=
    fun c hc => isUnreserved_of_isDigit (isDigit_of_mem_toDigits hc)
  rw [plain, String.toList_ofList, List.mem_append] at h
  rcases h with h | h
  · rw [wholeText] at h
    split at h
    next =>
      rcases List.mem_cons.mp h with rfl | h
      · decide
      · exact hwhole c h
    next => exact hwhole c h
  · split at h
    next => exact absurd h List.not_mem_nil
    next =>
      rcases List.mem_cons.mp h with rfl | h
      · decide
      · exact isUnreserved_of_isDigit ((isRest_fractionText n).isDigit c h)

end PaymentUri.Amount
