import PaymentUri.Text.Decimal
import PaymentUri.Text.Integer
import Mathlib.Algebra.Group.Nat.Defs
import Mathlib.Data.List.DropRight
import Mathlib.Data.List.Induction
import Mathlib.Data.List.TakeDrop

namespace PaymentUri.Text

variable {c d : Char} {ds whole fraction : List Char}

theorem digitCount_pos (n : Nat) : 0 < digitCount n := Nat.length_toDigits_pos

theorem digitCount_le_iff {n k : Nat} (hk : 0 < k) : digitCount n ≤ k ↔ n < 10 ^ k :=
  Nat.length_toDigits_le_iff (by decide) hk

theorem isDigit_of_mem_toDigits {n : Nat} (h : c ∈ Nat.toDigits 10 n) :
    c.isDigit = true :=
  Nat.isDigit_of_mem_toDigits (by decide) (by decide) h

@[simp]
theorem ofDigits_toDigits (n : Nat) : ofDigits (Nat.toDigits 10 n) = n :=
  Nat.ofDigitChars_ten_toDigits

theorem ofDigits_append (xs ys : List Char) :
    ofDigits (xs ++ ys) = 10 ^ ys.length * ofDigits xs + ofDigits ys := by
  rw [ofDigits, Nat.ofDigitChars_append, Nat.ofDigitChars_eq_ofDigitChars_zero]
  rfl

theorem ofDigits_zeros (n : Nat) : ofDigits (List.replicate n '0') = 0 := by
  rw [ofDigits, Nat.ofDigitChars_replicate_zero, Nat.mul_zero]

theorem ofDigits_padded (width n : Nat) : ofDigits (padded width (Nat.toDigits 10 n)) = n := by
  rw [padded, ofDigits_append, ofDigits_zeros, ofDigits_toDigits, Nat.mul_zero, Nat.zero_add]

theorem length_padded {width n : Nat} (hw : 0 < width) (hn : n < 10 ^ width) :
    (padded width (Nat.toDigits 10 n)).length = width := by
  have hl : (Nat.toDigits 10 n).length ≤ width := (digitCount_le_iff hw).mpr hn
  rw [padded, List.length_append, List.length_replicate]
  omega

theorem isDigit_of_mem_zeros {k : Nat} (h : c ∈ List.replicate k '0') : c.isDigit = true := by
  rw [List.eq_of_mem_replicate h]
  rfl

theorem isDigit_of_mem_padded {width n : Nat} (h : c ∈ padded width (Nat.toDigits 10 n)) : c.isDigit = true := by
  rcases List.mem_append.mp h with h | h
  · exact isDigit_of_mem_zeros h
  · exact isDigit_of_mem_toDigits h

theorem digitChar_of_isDigit (h : c.isDigit = true) : Nat.digitChar (c.toNat - '0'.toNat) = c := by
  obtain ⟨hlow, hhigh⟩ := Char.isDigit_iff_toNat.mp h
  have hlow' : 48 ≤ c.toNat := hlow
  have hhigh' : c.toNat ≤ 57 := hhigh
  change Nat.digitChar (c.toNat - 48) = c
  apply Char.toNat_inj.mp
  rw [Nat.toNat_digitChar_of_lt_ten (by omega)]
  omega

theorem ofDigits_concat (ds : List Char) (c : Char) :
    ofDigits (ds ++ [c]) = 10 * ofDigits ds + (c.toNat - '0'.toNat) := by
  rw [ofDigits, Nat.ofDigitChars_append]
  rfl

theorem digit_lt (h : c.isDigit = true) : c.toNat - '0'.toNat < 10 := by
  have hhigh : c.toNat ≤ 57 := (Char.isDigit_iff_toNat.mp h).2
  change c.toNat - 48 < 10
  omega

theorem digit_pos (h : c.isDigit = true) (hne : c ≠ '0') : 0 < c.toNat - '0'.toNat := by
  have hlow : 48 ≤ c.toNat := (Char.isDigit_iff_toNat.mp h).1
  have hz : c.toNat ≠ 48 := fun he => hne (Char.toNat_inj.mp he)
  change 0 < c.toNat - 48
  omega

theorem toDigits_ofDigits_cons (hd : d.isDigit = true) (hne : d ≠ '0')
    (hds : ∀ c ∈ ds, c.isDigit = true) :
    0 < ofDigits (d :: ds) ∧ Nat.toDigits 10 (ofDigits (d :: ds)) = d :: ds := by
  -- The first digit keeps the number positive, so that every further one is written behind its digits.
  induction ds using List.reverseRecOn with
  | nil =>
      have hs : ofDigits [d] = d.toNat - '0'.toNat := by
        rw [ofDigits, Nat.ofDigitChars_cons, Nat.mul_zero, Nat.zero_add]
        rfl
      rw [hs, Nat.toDigits_of_lt_base (digit_lt hd), digitChar_of_isDigit hd]
      exact ⟨digit_pos hd hne, rfl⟩
  | append_singleton ds c ih =>
      obtain ⟨hpos, hdigits⟩ := ih fun b hb => hds b (List.mem_append_left _ hb)
      have hc : c.isDigit = true := hds c (by simp)
      rw [← List.cons_append, ofDigits_concat, ← Nat.toDigits_append_toDigits (by decide) hpos (digit_lt hc),
        hdigits, Nat.toDigits_of_lt_base (digit_lt hc), digitChar_of_isDigit hc]
      exact ⟨by omega, rfl⟩

theorem padded_succ {width : Nat} (h : ds.length ≤ width) :
    padded (width + 1) ds = '0' :: padded width ds := by
  rw [padded, padded, Nat.sub_add_comm h, List.replicate_succ, List.cons_append]

theorem length_le_padded (width : Nat) (ds : List Char) : ds.length ≤ (padded width ds).length := by
  rw [padded, List.length_append]
  omega

/-- Digits are those of the number that they spell, filled up with the leading zeros among them. -/
theorem padded_ofDigits (hds : ∀ c ∈ ds, c.isDigit = true) (hne : ds ≠ []) :
    padded ds.length (Nat.toDigits 10 (ofDigits ds)) = ds := by
  induction ds with
  | nil => exact absurd rfl hne
  | cons d ds ih =>
      rw [List.forall_mem_cons] at hds
      by_cases hd : d = '0'
      · subst hd
        by_cases hnil : ds = []
        · subst hnil
          rfl
        · have hpad := ih hds.2 hnil
          have hz : ofDigits ('0' :: ds) = ofDigits ds := rfl
          have hl := length_le_padded ds.length (Nat.toDigits 10 (ofDigits ds))
          rw [hpad] at hl
          rw [hz, List.length_cons, padded_succ hl, hpad]
      · rw [(toDigits_ofDigits_cons hds.1 hd hds.2).2, padded, Nat.sub_self, List.replicate_zero,
          List.nil_append]

theorem spanDigits_append (hd : ∀ c ∈ ds, c.isDigit = true)
    (rest : List Char) (hr : ∀ c ∈ rest.head?, c.isDigit = false) :
    spanDigits (ds ++ rest) = (ds, rest) := by
  have hw : rest.takeWhile Char.isDigit = [] ∧ rest.dropWhile Char.isDigit = rest := by
    cases rest with
    | nil => exact ⟨rfl, rfl⟩
    | cons c cs => simp [hr c rfl]
  rw [spanDigits, List.span_eq_takeWhile_dropWhile, List.takeWhile_append_of_pos hd,
    List.dropWhile_append_of_pos hd, hw.1, hw.2, List.append_nil]

def signed (negative : Bool) (cs : List Char) : List Char := if negative then '-' :: cs else cs

theorem lt_pow_of_le {j k m : Nat} (hj : j ≤ k) (h : m < 10 ^ j) : m < Nat.pow 10 k :=
  h.trans_le (Nat.pow_le_pow_right (by decide) hj)

theorem isWritable_of_lt {n : Int} {j : Nat} (hj : j ≤ maxDigits) (h : n.natAbs < 10 ^ j) :
    isWritable n = true :=
  decide_eq_true (lt_pow_of_le hj h)

end PaymentUri.Text
