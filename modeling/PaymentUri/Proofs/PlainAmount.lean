import PaymentUri.Proofs.Amount

namespace PaymentUri.Amount

open Text

variable {cs ds whole fraction : List Char} {n : Int} {text : String}

inductive IsWhole : List Char → Prop
  | zero : IsWhole ['0']
  | digits (d : Char) (ds : List Char) (hd : d.isDigit = true) (hne : d ≠ '0')
      (hds : ∀ c ∈ ds, c.isDigit = true) : IsWhole (d :: ds)

/-- Nothing, or a point and no more digits than a coin has places, of which the last is not zero. -/
inductive IsFraction : List Char → Prop
  | absent : IsFraction []
  | digits (ds : List Char) (d : Char) (hl : ds.length < places) (hds : ∀ c ∈ ds, c.isDigit = true)
      (hd : d.isDigit = true) (hne : d ≠ '0') : IsFraction ('.' :: (ds ++ [d]))

def IsPlain (cs : List Char) : Prop :=
  ∃ whole fraction, IsWhole whole ∧ IsFraction fraction ∧ cs = whole ++ fraction

theorem isWhole_toDigits (n : Nat) : IsWhole (Nat.toDigits 10 n) := by
  have hdigits : ∀ c ∈ Nat.toDigits 10 n, c.isDigit = true := fun _ => isDigit_of_mem_toDigits
  have hvalue := ofDigits_toDigits n
  match hn : Nat.toDigits 10 n with
  | [] => exact absurd hn Nat.toDigits_ne_nil
  | d :: ds =>
      rw [hn, List.forall_mem_cons] at hdigits
      by_cases hd : d = '0'
      · subst hd
        by_cases hds : ds = []
        · rw [hds]
          exact .zero
        · -- The rest would spell the same number with fewer digits than it has.
          rw [hn] at hvalue
          have hrest : ofDigits ds = n := hvalue
          have hpad := padded_ofDigits hdigits.2 hds
          have hl := length_le_padded ds.length (Nat.toDigits 10 n)
          rw [hrest] at hpad
          rw [hpad, hn, List.length_cons] at hl
          omega
      · exact .digits d ds hdigits.1 hd hdigits.2

theorem toDigits_of_isWhole (h : IsWhole cs) : Nat.toDigits 10 (ofDigits cs) = cs := by
  cases h with
  | zero => rfl
  | digits d ds hd hne hds => exact (toDigits_ofDigits_cons hd hne hds).2

theorem isFraction_fractionText (n : Int) :
    IsFraction (if fractionText n = [] then [] else '.' :: fractionText n) := by
  split
  next => exact .absent
  next hne =>
    have hl := (isRest_fractionText n).length_le
    have hlast : ¬((fractionText n).getLast hne == '0') = true := List.rdropWhile_last_not _ _ hne
    have hdigits := (isRest_fractionText n).isDigit
    rw [← List.dropLast_concat_getLast hne] at hdigits ⊢
    refine .digits _ _ ?_ (fun c hc => hdigits c (List.mem_append_left _ hc)) (hdigits _ (by simp))
      (by simpa using hlast)
    have hpos := List.length_pos_of_ne_nil hne
    rw [List.length_dropLast]
    omega

theorem exists_signed_plain (n : Int) :
    ∃ rest, IsPlain (Nat.toDigits 10 (n.natAbs / coin) ++ rest) ∧
      (plain n).toList = signed (decide (n < 0)) (Nat.toDigits 10 (n.natAbs / coin) ++ rest) :=
  ⟨_, ⟨_, _, isWhole_toDigits (n.natAbs / coin), isFraction_fractionText n, rfl⟩, toList_plain n⟩

theorem isPlain_plain (h : 0 ≤ n) : IsPlain (plain n).toList := by
  obtain ⟨rest, hplain, he⟩ := exists_signed_plain n
  rw [he, decide_eq_false (Int.not_lt.mpr h)]
  exact hplain

theorem eq_zero_of_ofDigits_eq_zero (hds : ∀ c ∈ ds, c.isDigit = true) (h : ofDigits ds = 0) :
    ∀ c ∈ ds, c = '0' := by
  intro c hc
  have hpad := padded_ofDigits hds (List.ne_nil_of_mem hc)
  rw [← hpad, h, padded] at hc
  rcases List.mem_append.mp hc with hc | hc
  · exact List.eq_of_mem_replicate hc
  · exact List.mem_singleton.mp hc

theorem isDigit_of_mem_filled {c : Char} (hds : ∀ c ∈ ds, c.isDigit = true) (hc : c ∈ filled ds) :
    c.isDigit = true := by
  rcases List.mem_append.mp hc with hc | hc
  · exact hds c hc
  · exact isDigit_of_mem_zeros hc

theorem padded_ofDigits_filled (hl : ds.length ≤ places) (hds : ∀ c ∈ ds, c.isDigit = true) :
    padded places (Nat.toDigits 10 (ofDigits (filled ds))) = filled ds := by
  have hlength : (filled ds).length = places := by
    rw [filled, List.length_append, List.length_replicate]
    omega
  have hpad := padded_ofDigits (fun _ => isDigit_of_mem_filled hds)
    (List.ne_nil_of_length_pos (by rw [hlength]; decide))
  rwa [hlength] at hpad

theorem ofDigits_filled_lt (hl : ds.length ≤ places) (hds : ∀ c ∈ ds, c.isDigit = true) :
    ofDigits (filled ds) < coin := by
  have hcount := length_le_padded places (Nat.toDigits 10 (ofDigits (filled ds)))
  rw [padded_ofDigits_filled hl hds, filled, List.length_append, List.length_replicate,
    Nat.add_sub_of_le hl] at hcount
  exact (digitCount_le_iff (by decide)).mp hcount

/-- Digits on both sides of a point are those of an amount. It is negative at will, unless all of them
are zeros. -/
theorem exists_isRest (negative : Bool) (hwhole : IsWhole whole) (hl : ds.length ≤ places)
    (hds : ∀ c ∈ ds, c.isDigit = true)
    (hz : negative = true → ¬(whole = ['0'] ∧ ∀ c ∈ ds, c = '0')) :
    ∃ n : Int, decide (n < 0) = negative ∧ Nat.toDigits 10 (n.natAbs / coin) = whole ∧ IsRest n ds := by
  have hlt := ofDigits_filled_lt hl hds
  let m := coin * ofDigits whole + ofDigits (filled ds)
  have hpos : negative = true → 0 < m := by
    intro hnegative
    -- Without a value all digits are zeros, which a sign must not stand in front of.
    by_contra hm
    obtain ⟨hmul, hfilled⟩ := Nat.add_eq_zero_iff.mp (Nat.eq_zero_of_not_pos hm)
    refine hz hnegative ⟨?_, fun c hc => ?_⟩
    · rw [← toDigits_of_isWhole hwhole, (Nat.mul_eq_zero.mp hmul).resolve_left (by decide)]
      rfl
    · exact eq_zero_of_ofDigits_eq_zero (fun _ => isDigit_of_mem_filled hds) hfilled c
        (List.mem_append_left _ hc)
  have habs : (if negative then -(m : Int) else m).natAbs = m := by split <;> simp
  refine ⟨if negative then -m else m, ?_, ?_, hl, ?_⟩
  · cases negative with
    | true => simpa using hpos rfl
    | false => simp
  · rw [habs, Nat.mul_add_div (by decide), Nat.div_eq_of_lt hlt, Nat.add_zero, toDigits_of_isWhole hwhole]
  · rw [habs, Nat.mul_add_mod, Nat.mod_eq_of_lt hlt, padded_ofDigits_filled hl hds]

theorem exists_digits_of_isFraction (h : IsFraction fraction) :
    ∃ ds, ds.length ≤ places ∧ (∀ c ∈ ds, c.isDigit = true) ∧ ds.rdropWhile (· == '0') = ds ∧
      fraction = if ds = [] then [] else '.' :: ds := by
  cases h with
  | absent => exact ⟨[], by simp, by simp, rfl, rfl⟩
  | digits ds d hl hds hd hne =>
      refine ⟨ds ++ [d], ?_, ?_, List.rdropWhile_concat_neg _ _ _ (by simpa using hne), by simp⟩
      · rw [List.length_append]
        exact hl
      · exact List.forall_mem_append.mpr ⟨hds, List.forall_mem_singleton.mpr hd⟩

theorem exists_plain (negative : Bool) (h : IsPlain cs) (hz : negative = true → cs ≠ ['0']) :
    ∃ n, (plain n).toList = signed negative cs := by
  obtain ⟨whole, fraction, hwhole, hfraction, rfl⟩ := h
  obtain ⟨ds, hl, hds, hdrop, rfl⟩ := exists_digits_of_isFraction hfraction
  obtain ⟨n, hnegative, hdigits, hrest⟩ := exists_isRest negative hwhole hl hds (by
    rintro hnegative ⟨rfl, hzero⟩
    have hnil : ds = [] := by
      rw [← hdrop, List.rdropWhile_eq_nil_iff]
      simpa using hzero
    exact hz hnegative (by rw [hnil]; rfl))
  exact ⟨n, by rw [toList_plain, hnegative, hdigits, hrest.fractionText_eq, hdrop]⟩

theorem exists_plain_of_isPlain (h : IsPlain text.toList) : ∃ n, plain n = text := by
  obtain ⟨n, hn⟩ := exists_plain false h (by simp)
  exact ⟨n, String.toList_inj.mp hn⟩

theorem isUnreserved_of_isPlain (h : IsPlain text.toList) :
    ∀ c ∈ text.toList, Escape.isUnreserved c = true := by
  obtain ⟨n, rfl⟩ := exists_plain_of_isPlain h
  exact fun _ => isUnreserved_of_mem_plain

theorem plain_of_parse (h : IsPlain text.toList) (hp : parse text = .ok n) : plain n = text := by
  obtain ⟨m, rfl⟩ := exists_plain_of_isPlain h
  rw [eq_of_parse_plain hp]

end PaymentUri.Amount
