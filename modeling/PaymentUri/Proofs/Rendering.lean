import PaymentUri.Proofs.PlainAmount

namespace PaymentUri.Amount

open Text

variable {cs ds : List Char} {n : Int} {text : String}

/-- The whole coins of an amount have few enough digits to be written. -/
def HasText (n : Int) : Prop := isWritable (n.natAbs / coin : Nat) = true

theorem hasText_of_lt {k : Nat} (hk : k ≤ maxDigits) (h : n.natAbs / coin < 10 ^ k) : HasText n :=
  isWritable_of_lt hk h

def cents (n : Int) : List Char :=
  fractionText n ++ List.replicate (2 - (fractionText n).length) '0'

theorem isRest_cents (n : Int) : IsRest n (cents n) := by
  have hrest := isRest_fractionText n
  have hl := hrest.length_le
  have hlength : (cents n).length = (fractionText n).length + (2 - (fractionText n).length) := by
    rw [cents, List.length_append, List.length_replicate]
  refine ⟨?_, ?_⟩
  · simp only [places] at hl ⊢
    omega
  · rw [← hrest.filled_eq, filled, filled, hlength, cents, List.append_assoc,
      List.replicate_append_replicate]
    congr 2
    simp only [places] at hl ⊢
    omega

theorem cents_ne_nil (n : Int) : cents n ≠ [] := by
  rw [cents]
  cases fractionText n with
  | nil => exact List.cons_ne_nil _ _
  | cons c cs => exact List.cons_ne_nil _ _

theorem toList_friendly (n : Int) :
    (friendly n).toList =
      signed (decide (n < 0)) (Nat.toDigits 10 (n.natAbs / coin) ++ '.' :: cents n) := by
  rw [friendly, String.toList_ofList, wholeText_eq, List.append_assoc, signed_append]
  rfl

theorem read?_friendly (n : Int) : Decimal.read? (friendly n).toList = some (spelt n (cents n)) := by
  have hm := IsMantissa.point _ _ (isDigits_toDigits (n.natAbs / coin)) (isRest_cents n).isDigit
  rw [toList_friendly, ← List.append_nil (_ ++ '.' :: _), Decimal.read?_signed _ hm .absent, Int.zero_sub]
  rfl

theorem parse_friendly (h : n.natAbs < 10 ^ maxUnitDigits) : parse (friendly n) = .ok n := by
  rw [parse, read?_friendly]
  exact (isRest_cents n).ofDecimal_spelt h

theorem eq_of_parse_friendly {m : Int} (h : parse (friendly n) = .ok m) : m = n := by
  rw [parse, read?_friendly] at h
  exact (isRest_cents n).eq_of_ofDecimal h

theorem IsRest.ofDecimal_spelt_eq {shown : String} {k : Nat} (h : IsRest n ds) (hk : 0 < k)
    (hk' : k ≤ 1000000000000000000) (hn : n.natAbs < 10 ^ k) :
    ofDecimal shown (spelt n ds) =
      if n.natAbs < 10 ^ maxUnitDigits then .ok n else .error (.tooLarge shown) := by
  split
  next hsmall => exact h.ofDecimal_spelt hsmall
  next hlarge =>
    rw [← h.units_spelt] at hn hlarge
    exact ofDecimal_of_large (by rw [h.shift_spelt]; omega) (by simp [spelt]) hk hk'
      (Nat.not_lt.mp hlarge) hn

/-- Both texts of an amount are read back as that amount, up to a bound on its size that is the same
for both and sharp. -/
theorem renderings_read_back (n : Int) (h : n.natAbs < 10 ^ 4000) :
    HasText n ∧
      (parse (plain n) =
        if n.natAbs < 10 ^ 40 then .ok n else .error (.tooLarge (quoted (plain n)))) ∧
      (parse (friendly n) =
        if n.natAbs < 10 ^ 40 then .ok n else .error (.tooLarge (quoted (friendly n)))) := by
  refine ⟨hasText_of_lt (by decide) (lt_of_le_of_lt (Nat.div_le_self _ _) h), ?_, ?_⟩
  · rw [parse, read?_plain]
    exact (isRest_fractionText n).ofDecimal_spelt_eq (by decide) (by decide) h
  · rw [parse, read?_friendly]
    exact (isRest_cents n).ofDecimal_spelt_eq (by decide) (by decide) h

theorem renderings_read_back_sample :
    ((10 : Int) ^ 40 - 1).natAbs < 10 ^ 4000 ∧ ((10 : Int) ^ 40).natAbs < 10 ^ 4000 ∧
      parse (friendly (10 ^ 40 - 1)) = .ok (10 ^ 40 - 1) ∧
      parse (friendly (10 ^ 40)) = .error (.tooLarge (quoted (friendly (10 ^ 40)))) := by
  have hlarge : 10 ^ 41 ≤ 10 ^ 4000 := pow_le_pow_right₀ (by decide) (by decide)
  have hbelow : ((10 : Int) ^ 40 - 1).natAbs < 10 ^ 4000 := lt_of_lt_of_le (by decide) hlarge
  have hbound : ((10 : Int) ^ 40).natAbs < 10 ^ 4000 := lt_of_lt_of_le (by decide) hlarge
  exact ⟨hbelow, hbound, (renderings_read_back _ hbelow).2.2.trans (if_pos (by decide)),
    (renderings_read_back _ hbound).2.2.trans (if_neg (by decide))⟩

/-- Two digits, or more of which the last is not zero, as far as a coin has places. -/
inductive IsCents : List Char → Prop
  | two (a b : Char) (ha : a.isDigit = true) (hb : b.isDigit = true) : IsCents [a, b]
  | more (a b : Char) (ds : List Char) (d : Char) (ha : a.isDigit = true) (hb : b.isDigit = true)
      (hl : ds.length ≤ 5) (hds : ∀ c ∈ ds, c.isDigit = true) (hd : d.isDigit = true)
      (hne : d ≠ '0') : IsCents (a :: b :: (ds ++ [d]))

def IsFriendly (cs : List Char) : Prop :=
  ∃ whole ds, IsWhole whole ∧ IsCents ds ∧ cs = whole ++ '.' :: ds

def IsSigned (form : List Char → Prop) (cs : List Char) : Prop :=
  ∃ negative body, form body ∧ cs = signed negative body

theorem exists_front_last (h : 2 < ds.length) : ∃ a b cs d, ds = a :: b :: (cs ++ [d]) := by
  rcases ds with _ | ⟨a, _ | ⟨b, cs⟩⟩
  · simp at h
  · simp at h
  · have hne : cs ≠ [] := by
      rintro rfl
      simp at h
    exact ⟨a, b, cs.dropLast, cs.getLast hne, by rw [List.dropLast_concat_getLast hne]⟩

theorem isCents_iff :
    IsCents ds ↔ ds.length ≤ places ∧ (∀ c ∈ ds, c.isDigit = true) ∧
      ds.rdropWhile (· == '0') ++ List.replicate (2 - (ds.rdropWhile (· == '0')).length) '0' = ds := by
  constructor
  · intro h
    cases h with
    | two a b ha hb =>
        refine ⟨by simp [places], by simp [ha, hb], ?_⟩
        by_cases hb : b = '0' <;> by_cases ha : a = '0' <;> simp [List.rdropWhile, ha, hb]
    | more a b ds d ha hb hl hds hd hne =>
        have hdrop : (a :: b :: (ds ++ [d])).rdropWhile (· == '0') = a :: b :: (ds ++ [d]) :=
          List.rdropWhile_concat_neg _ (a :: b :: ds) d (by simpa using hne)
        refine ⟨by simp only [List.length_cons, List.length_append, List.length_nil, places]; omega, ?_, ?_⟩
        · simp only [List.forall_mem_cons, List.forall_mem_append]
          exact ⟨ha, hb, hds, hd, List.forall_mem_nil _⟩
        · simp [hdrop]
  · rintro ⟨hl, hdigits, hdrop⟩
    -- Zeros have been added up to the second digit, or none at all.
    by_cases hshort : (ds.rdropWhile (· == '0')).length ≤ 2
    · have hlength : ds.length = 2 := by
        have h := congrArg List.length hdrop
        rw [List.length_append, List.length_replicate] at h
        omega
      obtain ⟨a, b, rfl⟩ := List.length_eq_two.mp hlength
      exact .two a b (hdigits a (by simp)) (hdigits b (by simp))
    · have hzeros : 2 - (ds.rdropWhile (· == '0')).length = 0 := by omega
      rw [hzeros, List.replicate_zero, List.append_nil] at hdrop
      have hlast := List.rdropWhile_last_not (· == '0') ds
      rw [hdrop] at hshort hlast
      obtain ⟨a, b, cs, d, rfl⟩ := exists_front_last (Nat.lt_of_not_le hshort)
      simp only [List.mem_cons, List.mem_append, List.not_mem_nil, or_false] at hdigits
      refine .more a b cs d (hdigits a (.inl rfl)) (hdigits b (.inr (.inl rfl))) ?_
        (fun c hc => hdigits c (.inr (.inr (.inl hc)))) (hdigits d (by simp)) ?_
      · simp only [List.length_cons, List.length_append, List.length_nil, places] at hl
        omega
      · simpa using hlast (by simp)

theorem exists_signed_friendly (n : Int) :
    ∃ rest, IsFriendly (Nat.toDigits 10 (n.natAbs / coin) ++ rest) ∧
      (friendly n).toList = signed (decide (n < 0)) (Nat.toDigits 10 (n.natAbs / coin) ++ rest) := by
  have hrest := isRest_cents n
  have hcents : IsCents (cents n) := by
    refine isCents_iff.mpr ⟨hrest.length_le, hrest.isDigit, ?_⟩
    rw [← hrest.fractionText_eq]
    rfl
  exact ⟨_, ⟨_, _, isWhole_toDigits (n.natAbs / coin), hcents, rfl⟩, toList_friendly n⟩

theorem exists_friendly (negative : Bool) (h : IsFriendly cs)
    (hz : negative = true → cs ≠ ['0', '.', '0', '0']) :
    ∃ n, (friendly n).toList = signed negative cs := by
  obtain ⟨whole, ds, hwhole, hcents, rfl⟩ := h
  obtain ⟨hl, hds, hdrop⟩ := isCents_iff.mp hcents
  obtain ⟨n, hnegative, hdigits, hrest⟩ := exists_isRest negative hwhole hl hds (by
    rintro hnegative ⟨rfl, hzero⟩
    have hnil : ds.rdropWhile (· == '0') = [] := by
      rw [List.rdropWhile_eq_nil_iff]
      simpa using hzero
    rw [hnil] at hdrop
    exact hz hnegative (by rw [← hdrop]; rfl))
  refine ⟨n, ?_⟩
  rw [toList_friendly, hnegative, hdigits, cents, hrest.fractionText_eq, hdrop]

theorem IsRest.spelt_ne (h : IsRest n ds) (e : Int) : spelt n ds ≠ ⟨true, 0, e⟩ := by
  intro he
  have hn := h.units_spelt
  have hnegative : decide (n < 0) = true := congrArg Decimal.negative he
  rw [he, units] at hn
  simp [← hn] at hnegative

theorem plain_ne_negative_zero (n : Int) : plain n ≠ "-0" := by
  intro h
  have hread := read?_plain n
  have hzero : Decimal.read? "-0".toList = some ⟨true, 0, 0⟩ := by decide
  rw [h, hzero] at hread
  exact (isRest_fractionText n).spelt_ne 0 (Option.some.inj hread).symm

theorem friendly_ne_negative_zero (n : Int) : friendly n ≠ "-0.00" := by
  intro h
  have hread := read?_friendly n
  have hzero : Decimal.read? "-0.00".toList = some ⟨true, 0, -2⟩ := by decide
  rw [h, hzero] at hread
  exact (isRest_cents n).spelt_ne (-2) (Option.some.inj hread).symm

theorem hasText_of_length {negative : Bool} {rest : List Char} (h : text.length < 4000)
    (he : text.toList = signed negative (Nat.toDigits 10 (n.natAbs / coin) ++ rest)) : HasText n := by
  have hlength : digitCount (n.natAbs / coin) ≤ text.toList.length := by
    rw [he, signed, digitCount]
    split
    next => rw [List.length_cons, List.length_append]; omega
    next => rw [List.length_append]; omega
  rw [String.length_toList] at hlength
  have hk : digitCount (n.natAbs / coin) ≤ 4000 := by omega
  exact hasText_of_lt (by decide) ((digitCount_le_iff (by decide)).mp hk)

theorem written_iff {write : Int → String} {form : List Char → Prop} {zero : String}
    (hform : ∀ n, ∃ rest, form (Nat.toDigits 10 (n.natAbs / coin) ++ rest) ∧
      (write n).toList = signed (decide (n < 0)) (Nat.toDigits 10 (n.natAbs / coin) ++ rest))
    (hexists : ∀ negative cs, form cs → (negative = true → '-' :: cs ≠ zero.toList) →
      ∃ n, (write n).toList = signed negative cs)
    (hzero : ∀ n, write n ≠ zero) (h : text.length < 4000) :
    (∃ n, HasText n ∧ write n = text) ↔ IsSigned form text.toList ∧ text ≠ zero := by
  constructor
  · rintro ⟨n, -, rfl⟩
    obtain ⟨rest, hrest, he⟩ := hform n
    exact ⟨⟨_, _, hrest, he⟩, hzero n⟩
  · rintro ⟨⟨negative, cs, hcs, he⟩, hne⟩
    obtain ⟨n, hn⟩ := hexists negative cs hcs (by
      rintro rfl hz
      exact hne (String.toList_inj.mp (he.trans hz)))
    have htext : write n = text := String.toList_inj.mp (hn.trans he.symm)
    obtain ⟨rest, -, hwrite⟩ := hform n
    exact ⟨n, hasText_of_length h (htext ▸ hwrite), htext⟩

/-- The texts that amounts are written as are told by their form, and each is written again for the
amount that is read from it. -/
theorem renderings_are_canonical (text : String) (h : text.length < 4000) :
    ((∃ n, HasText n ∧ plain n = text) ↔ IsSigned IsPlain text.toList ∧ text ≠ "-0") ∧
      ((∃ n, HasText n ∧ friendly n = text) ↔ IsSigned IsFriendly text.toList ∧ text ≠ "-0.00") ∧
      ∀ n, parse text = .ok n →
        (IsSigned IsPlain text.toList ∧ text ≠ "-0" → HasText n ∧ plain n = text) ∧
        (IsSigned IsFriendly text.toList ∧ text ≠ "-0.00" → HasText n ∧ friendly n = text) := by
  have hplain : (∃ n, HasText n ∧ plain n = text) ↔ IsSigned IsPlain text.toList ∧ text ≠ "-0" :=
    written_iff exists_signed_plain
      (fun negative cs hcs hz => exists_plain negative hcs fun hn he => hz hn (by rw [he]; rfl))
      plain_ne_negative_zero h
  have hfriendly : (∃ n, HasText n ∧ friendly n = text) ↔
      IsSigned IsFriendly text.toList ∧ text ≠ "-0.00" :=
    written_iff exists_signed_friendly
      (fun negative cs hcs hz => exists_friendly negative hcs fun hn he => hz hn (by rw [he]; rfl))
      friendly_ne_negative_zero h
  refine ⟨hplain, hfriendly, fun n hn => ⟨fun hform => ?_, fun hform => ?_⟩⟩
  · obtain ⟨m, hm, rfl⟩ := hplain.mpr hform
    rw [eq_of_parse_plain hn]
    exact ⟨hm, rfl⟩
  · obtain ⟨m, hm, rfl⟩ := hfriendly.mpr hform
    rw [eq_of_parse_friendly hn]
    exact ⟨hm, rfl⟩

theorem renderings_are_canonical_sample :
    "-0.05".length < 4000 ∧ parse "-0.05" = .ok (-5000000) ∧
      (IsSigned IsPlain "-0.05".toList ∧ "-0.05" ≠ "-0") ∧
      (IsSigned IsFriendly "-0.05".toList ∧ "-0.05" ≠ "-0.00") ∧
      (∃ n, HasText n ∧ plain n = "-0.05") ∧ plain (-5000000) = "-0.05" ∧
      friendly (-5000000) = "-0.05" := by
  have hlength : "-0.05".length < 4000 := by decide
  have hparse : parse "-0.05" = .ok (-5000000) := by decide
  have hplain : IsSigned IsPlain "-0.05".toList ∧ "-0.05" ≠ "-0" :=
    ⟨⟨true, _, ⟨['0'], _, .zero, .digits ['0'] '5' (by decide) (by simp) (by decide) (by decide), rfl⟩,
      by decide⟩, by decide⟩
  have hfriendly : IsSigned IsFriendly "-0.05".toList ∧ "-0.05" ≠ "-0.00" :=
    ⟨⟨true, _, ⟨['0'], _, .zero, .two '0' '5' (by decide) (by decide), rfl⟩, by decide⟩, by decide⟩
  obtain ⟨hexists, -, hback⟩ := renderings_are_canonical "-0.05" hlength
  exact ⟨hlength, hparse, hplain, hfriendly, hexists.mpr hplain, ((hback _ hparse).1 hplain).2,
    ((hback _ hparse).2 hfriendly).2⟩

end PaymentUri.Amount
