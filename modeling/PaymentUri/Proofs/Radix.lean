import PaymentUri.Base58
import Mathlib.Data.Nat.Digits.Lemmas
import Mathlib.Data.List.TakeWhile

namespace PaymentUri.Base58

variable {base src dst n d count : Nat} {ds zs : List Nat}

theorem lowDigits_eq_digits (hb : 1 < base) (hn : n ≤ count) :
    lowDigits base count n = Nat.digits base n := by
  induction count generalizing n with
  | zero => simp [lowDigits, Nat.le_zero.mp hn]
  | succ count ih =>
      by_cases h : n = 0
      · simp [lowDigits, h]
      · have hlt : n / base < n := Nat.div_lt_self (by omega) hb
        rw [lowDigits, if_neg h, Nat.digits_def' hb (Nat.pos_of_ne_zero h), ih (by omega)]

theorem digitsRev_eq_digits (hb : 1 < base) (n : Nat) : digitsRev base n = Nat.digits base n :=
  lowDigits_eq_digits hb le_rfl

theorem ofDigits_eq_reverse (base : Nat) (ds : List Nat) :
    ofDigits base ds = Nat.ofDigits base ds.reverse := by
  rw [Nat.ofDigits_eq_foldr, List.foldr_reverse, ofDigits]
  congr 1
  funext n d
  exact Nat.add_comm _ _

theorem ofDigits_digitsRev (hb : 1 < base) (n : Nat) :
    ofDigits base (digitsRev base n).reverse = n := by
  rw [ofDigits_eq_reverse, List.reverse_reverse, digitsRev_eq_digits hb, Nat.ofDigits_digits]

theorem lt_of_mem_digitsRev (hb : 1 < base) (hd : d ∈ digitsRev base n) : d < base := by
  rw [digitsRev_eq_digits hb] at hd
  exact Nat.digits_lt_base hb hd

theorem head_digitsRev_ne_zero (hb : 1 < base) (n : Nat) :
    (digitsRev base n).reverse.head? ≠ some 0 := by
  rw [digitsRev_eq_digits hb, List.head?_reverse]
  intro h
  have hn : n ≠ 0 := by
    rintro rfl
    simp at h
  rw [List.getLast?_eq_getLast_of_ne_nil (Nat.digits_ne_nil_iff_ne_zero.mpr hn), Option.some.injEq] at h
  exact Nat.getLast_digit_ne_zero base hn h

theorem digitsRev_ofDigits (hb : 1 < base) (hds : ∀ d ∈ ds, d < base) (hhead : ds.head? ≠ some 0) :
    (digitsRev base (ofDigits base ds)).reverse = ds := by
  rw [digitsRev_eq_digits hb, ofDigits_eq_reverse, Nat.digits_ofDigits base hb, List.reverse_reverse]
  · intro d hd
    exact hds d (List.mem_reverse.mp hd)
  · intro hne h
    rw [List.getLast_reverse] at h
    exact hhead (by rw [← h, List.head?_eq_some_head])

theorem ofDigits_zeros_append (hz : ∀ z ∈ zs, z = 0) (ds : List Nat) :
    ofDigits base (zs ++ ds) = ofDigits base ds := by
  induction zs with
  | nil => rfl
  | cons z zs ih =>
      rw [List.forall_mem_cons] at hz
      rw [← ih hz.2, hz.1]
      rfl

/-- The digits in another base of the number that digits spell. Leading zeros are kept as they are. -/
def convert (src dst : Nat) (ds : List Nat) : List Nat :=
  ds.takeWhile (· == 0) ++ (digitsRev dst (ofDigits src ds)).reverse

theorem eq_zero_of_mem_takeWhile {z : Nat} (hz : z ∈ ds.takeWhile (· == 0)) : z = 0 := by
  simpa using List.mem_takeWhile_imp hz

theorem takeWhile_zeros_append (hz : ∀ z ∈ zs, z = 0) (hhead : ds.head? ≠ some 0) :
    (zs ++ ds).takeWhile (· == 0) = zs := by
  have hds : ds.takeWhile (· == 0) = [] := by
    cases ds with
    | nil => rfl
    | cons d ds =>
        have hd : d ≠ 0 := by simpa using hhead
        simp [hd]
  rw [List.takeWhile_append_of_pos (by simpa using hz), hds, List.append_nil]

theorem lt_of_mem_convert (hd : 1 < dst) (h : d ∈ convert src dst ds) : d < dst := by
  rcases List.mem_append.mp h with h | h
  · rw [eq_zero_of_mem_takeWhile h]
    omega
  · exact lt_of_mem_digitsRev hd (List.mem_reverse.mp h)

theorem convert_convert (hsrc : 1 < src) (hdst : 1 < dst) (hds : ∀ d ∈ ds, d < src) :
    convert dst src (convert src dst ds) = ds := by
  have hz : ∀ z ∈ ds.takeWhile (· == 0), z = 0 := fun z => eq_zero_of_mem_takeWhile
  have hrest : ofDigits src ds = ofDigits src (ds.dropWhile (· == 0)) := by
    conv_lhs => rw [← List.takeWhile_append_dropWhile (p := (· == 0)) (l := ds)]
    exact ofDigits_zeros_append hz _
  have hhead : (ds.dropWhile (· == 0)).head? ≠ some 0 := by
    intro h
    simpa [h] using List.head?_dropWhile_not (· == 0) ds
  have hlt : ∀ d ∈ ds.dropWhile (· == 0), d < src :=
    fun d hd => hds d ((List.dropWhile_suffix _).subset hd)
  rw [convert, convert, takeWhile_zeros_append hz (head_digitsRev_ne_zero hdst _),
    ofDigits_zeros_append hz, ofDigits_digitsRev hdst, hrest, digitsRev_ofDigits hsrc hlt hhead,
    List.takeWhile_append_dropWhile]

end PaymentUri.Base58
