import Mathlib.Data.Nat.ModEq
import PaymentUri.Endpoint.Url

namespace PaymentUri.Endpoint

/-- The characters that are not found in an authority: they are dropped, end it or are refused. -/
def outside : List Nat := [0x09, 0x0A, 0x0D, 0x23, 0x2F, 0x3F] ++ deceptiveChars

def marks : List Nat := [0x25, 0x3A, 0x40, 0x5B, 0x5D] ++ outside

end PaymentUri.Endpoint

namespace PaymentUri.Text

open Endpoint (marks)

variable {s t : Capitals} {n : Nat} {c d : Char} {before cs : List Char}

namespace Capitals

def small (s : Capitals) (n : Nat) : Nat := (n + s.shift).toNat

/-- None of the small letters, which lie between two code points, is a capital of `t`: they lie on one side of
these, or at other distances. -/
def misses (s : Capitals) (low high : Nat) (t : Capitals) : Bool :=
  Nat.blt high t.first || Nat.blt t.last low ||
    Nat.beq s.step t.step && !Nat.beq (low % s.step) (t.first % s.step) ||
    Nat.beq s.first s.last && !Nat.beq (low % t.step) (t.first % t.step)

def single (n : Nat) : Capitals := ⟨n, n, 1, 0⟩

theorem contains_iff : s.contains n = true ↔ s.first ≤ n ∧ n ≤ s.last ∧ s.first ≡ n [MOD s.step] := by
  simp only [contains, Bool.and_eq_true, decide_eq_true_eq, beq_iff_eq, and_assoc]
  constructor
  · rintro ⟨hlow, hhigh, hstep⟩
    exact ⟨hlow, hhigh, (Nat.modEq_iff_dvd' hlow).mpr (Nat.dvd_of_mod_eq_zero hstep)⟩
  · rintro ⟨hlow, hhigh, hstep⟩
    exact ⟨hlow, hhigh, Nat.mod_eq_zero_of_dvd ((Nat.modEq_iff_dvd' hlow).mp hstep)⟩

theorem contains_single : (single n).contains n = true :=
  contains_iff.mpr ⟨le_rfl, le_rfl, rfl⟩

def IsSound (s : Capitals) : Prop :=
  0 ≤ s.first + s.shift ∧ (s.small s.last < 0xD800 ∨ 0xDFFF < s.small s.first ∧ s.small s.last < 0x110000)

instance (s : Capitals) : Decidable s.IsSound := inferInstanceAs (Decidable (_ ∧ _))

theorem small_bounds (hs : s.IsSound) (h : s.contains n = true) :
    s.small s.first ≤ s.small n ∧ s.small n ≤ s.small s.last := by
  obtain ⟨hlow, hhigh, -⟩ := contains_iff.mp h
  have hpos := hs.1
  simp only [small]
  omega

theorem small_modEq (hs : s.IsSound) (h : s.contains n = true) : s.small s.first ≡ s.small n [MOD s.step] := by
  obtain ⟨hlow, -, hstep⟩ := contains_iff.mp h
  obtain ⟨k, hk⟩ := (Nat.modEq_iff_dvd' hlow).mp hstep
  have hpos := hs.1
  have hsmall : s.small n = s.small s.first + s.step * k := by
    simp only [small]
    omega
  rw [hsmall, Nat.ModEq, Nat.add_mul_mod_self_left]

theorem not_contains_small (hs : s.IsSound) (h : s.contains n = true)
    (hmiss : s.misses (s.small s.first) (s.small s.last) t = true) : t.contains (s.small n) = false := by
  rw [← Bool.not_eq_true, contains_iff]
  rintro ⟨hlow, hhigh, hstep⟩
  obtain ⟨hsmallLow, hsmallHigh⟩ := small_bounds hs h
  simp only [misses, Bool.or_eq_true, Bool.and_eq_true, Nat.blt_eq, Nat.beq_eq, Bool.not_eq_true'] at hmiss
  rcases hmiss with ((hmiss | hmiss) | ⟨hsame, hmiss⟩) | ⟨hone, hmiss⟩
  · omega
  · omega
  · rw [← hsame] at hstep
    exact Nat.ne_of_beq_eq_false hmiss ((small_modEq hs h).trans hstep.symm)
  · obtain ⟨hfirst, hlast, -⟩ := contains_iff.mp h
    have hn : n = s.first := by omega
    rw [hn] at hstep
    exact Nat.ne_of_beq_eq_false hmiss hstep.symm

end Capitals

theorem isSound_of_mem (hs : s ∈ capitals) : s.IsSound := by
  have hall : ∀ s ∈ capitals, s.IsSound := by decide +kernel
  exact hall s hs

theorem misses_of_mem (hs : s ∈ capitals) (ht : t ∈ capitals ++ (0x130 :: marks).map Capitals.single) :
    s.misses (s.small s.first) (s.small s.last) t = true := by
  have hall : (capitals.all fun s => (capitals ++ (0x130 :: marks).map Capitals.single).all
      (s.misses (s.small s.first) (s.small s.last))) = true := by
    decide +kernel
  exact List.all_eq_true.mp (List.all_eq_true.mp hall s hs) t ht

theorem not_contains_mark (hd : d.toNat ∈ marks) (ht : t ∈ capitals) : t.contains d.toNat = false := by
  have hall : ∀ n ∈ marks, ∀ t ∈ capitals, t.contains n = false := by decide +kernel
  exact hall _ hd t ht

def IsSmall (c : Char) : Prop := c ≠ 'Σ' ∧ lowerChar c = [c]

instance (c : Char) : Decidable (IsSmall c) := inferInstanceAs (Decidable (_ ∧ _))

theorem lowerChar_of_none (hdot : c ≠ '\u0130') (h : ∀ t ∈ capitals, t.contains c.toNat = false) :
    lowerChar c = [c] := by
  have hfind : capitals.find? (·.contains c.toNat) = none := by
    rw [List.find?_eq_none]
    intro t ht
    rw [h t ht]
    exact Bool.false_ne_true
  rw [lowerChar, beq_false_of_ne hdot, if_neg Bool.false_ne_true, hfind]

theorem toNat_small (hs : s ∈ capitals) (h : s.contains n = true) : (Char.ofNat (s.small n)).toNat = s.small n := by
  have hsound := isSound_of_mem hs
  obtain ⟨hlow, hhigh⟩ := Capitals.small_bounds hsound h
  have hvalid : (s.small n).isValidChar := by
    rcases hsound.2 with hbelow | ⟨habove, hbelow⟩
    · exact .inl (by omega)
    · exact .inr ⟨by omega, by omega⟩
  rw [Char.ofNat, dif_pos hvalid]
  rfl

theorem isSmall_small (hs : s ∈ capitals) (h : s.contains n = true) :
    IsSmall (Char.ofNat (s.small n)) ∧ s.small n ∉ marks := by
  have hmiss {t : Capitals} (ht : t ∈ capitals ++ (0x130 :: marks).map Capitals.single) :
      t.contains (s.small n) = false :=
    Capitals.not_contains_small (isSound_of_mem hs) h (misses_of_mem hs ht)
  have hcapital {t : Capitals} (ht : t ∈ capitals) := hmiss (List.mem_append_left _ ht)
  have hsingle : s.small n ∉ 0x130 :: marks := by
    intro hmem
    have hcontained := hmiss (List.mem_append_right _ (List.mem_map_of_mem hmem))
    rw [Capitals.contains_single] at hcontained
    cases hcontained
  obtain ⟨hdot, hmark⟩ := not_or.mp (mt List.mem_cons.mpr hsingle)
  have hcode := toNat_small hs h
  refine ⟨⟨?_, lowerChar_of_none ?_ fun t ht => ?_⟩, hmark⟩
  · intro hsigma
    have hknown : ∃ t ∈ capitals, t.contains 'Σ'.toNat = true := List.any_eq_true.mp (by decide +kernel)
    obtain ⟨t, ht, hcontains⟩ := hknown
    rw [← hsigma, hcode, hcapital ht] at hcontains
    cases hcontains
  · intro h
    rw [h] at hcode
    exact hdot hcode.symm
  · rw [hcode]
    exact hcapital ht

theorem mem_lowerChar (h : d ∈ lowerChar c) : d = c ∧ (c ≠ 'Σ' → IsSmall c) ∨ IsSmall d ∧ d.toNat ∉ marks := by
  rw [lowerChar] at h
  split at h
  next =>
    have hdot : ∀ d ∈ ['i', '\u0307'], IsSmall d ∧ d.toNat ∉ marks := by
      rw [List.forall_mem_cons, List.forall_mem_singleton]
      decide +kernel
    exact .inr (hdot d h)
  next hdot =>
    split at h
    next s hfind =>
      have hs := List.mem_of_find?_eq_some hfind
      have hcontains : s.contains c.toNat = true := by simpa using List.find?_some hfind
      obtain ⟨hsmall, hmark⟩ := isSmall_small hs hcontains
      rw [← toNat_small hs hcontains] at hmark
      rw [List.mem_singleton.mp h]
      exact .inr ⟨hsmall, hmark⟩
    next hfind =>
      refine .inl ⟨List.mem_singleton.mp h, fun hsigma => ⟨hsigma, lowerChar_of_none ?_ fun t ht => ?_⟩⟩
      · rintro rfl
        exact hdot rfl
      · exact Bool.eq_false_of_not_eq_true (List.find?_eq_none.mp hfind t ht)

theorem mem_letters {h : Bool} (hd : d ∈ if c != 'Σ' then lowerChar c else if h then ['ς'] else ['σ']) :
    IsSmall d ∧ (d.toNat ∈ marks → d = c) := by
  have hsigmas : ∀ d ∈ ['ς', 'σ'], IsSmall d ∧ d.toNat ∉ marks := by
    rw [List.forall_mem_cons, List.forall_mem_singleton]
    decide +kernel
  split at hd
  next hsigma =>
    rcases mem_lowerChar hd with ⟨rfl, hsmall⟩ | ⟨hsmall, hmark⟩
    · exact ⟨hsmall (bne_iff_ne.mp hsigma), fun _ => rfl⟩
    · exact ⟨hsmall, fun h => absurd h hmark⟩
  next =>
    have hmem : d ∈ ['ς', 'σ'] := by
      split at hd <;> simp_all
    exact ⟨(hsigmas d hmem).1, fun h => absurd h (hsigmas d hmem).2⟩

theorem letters_of_isSmall {h : Bool} (hc : IsSmall c) :
    (if c != 'Σ' then lowerChar c else if h then ['ς'] else ['σ']) = [c] := by
  rw [if_pos (bne_iff_ne.mpr hc.1), hc.2]

theorem isSmall_of_mem_lowerAfter (h : d ∈ lowerAfter before cs) : IsSmall d := by
  induction cs generalizing before with
  | nil => cases h
  | cons c cs ih =>
      rcases List.mem_append.mp h with h | h
      · exact (mem_letters h).1
      · exact ih h

theorem lowerAfter_of_isSmall (h : ∀ c ∈ cs, IsSmall c) : lowerAfter before cs = cs := by
  induction cs generalizing before with
  | nil => rfl
  | cons c cs ih =>
      obtain ⟨hc, hcs⟩ := List.forall_mem_cons.mp h
      rw [lowerAfter, letters_of_isSmall hc, ih hcs]
      rfl

theorem lower_lower (cs : List Char) : lower (lower cs) = lower cs :=
  lowerAfter_of_isSmall fun _ h => isSmall_of_mem_lowerAfter h

theorem isSmall_of_mem_marks (hd : d.toNat ∈ marks) : IsSmall d := by
  have hspecial : 0x130 ∉ marks ∧ 'Σ'.toNat ∉ marks := by decide
  refine ⟨?_, lowerChar_of_none ?_ fun t ht => not_contains_mark hd ht⟩
  · rintro rfl
    exact hspecial.2 hd
  · rintro rfl
    exact hspecial.1 hd

theorem mem_lowerAfter_iff (hd : d.toNat ∈ marks) : d ∈ lowerAfter before cs ↔ d ∈ cs := by
  induction cs generalizing before with
  | nil => rfl
  | cons c cs ih =>
      rw [lowerAfter, List.mem_append, ih, List.mem_cons]
      refine or_congr_left ⟨fun h => (mem_letters h).2 hd, ?_⟩
      rintro rfl
      rw [letters_of_isSmall (isSmall_of_mem_marks hd)]
      exact List.mem_cons_self

theorem mem_lower_iff (hd : d.toNat ∈ marks) : d ∈ lower cs ↔ d ∈ cs := mem_lowerAfter_iff hd

theorem lowerChar_ne_nil (c : Char) : lowerChar c ≠ [] := by
  rw [lowerChar]
  split
  next => exact List.cons_ne_nil _ _
  next => split <;> exact List.cons_ne_nil _ _

theorem lower_ne_nil (h : cs ≠ []) : lower cs ≠ [] := by
  obtain ⟨c, cs, rfl⟩ := List.exists_cons_of_ne_nil h
  rw [lower, lowerAfter]
  refine List.append_ne_nil_of_left_ne_nil ?_ _
  split
  next => exact lowerChar_ne_nil c
  next => split <;> exact List.cons_ne_nil _ _

end PaymentUri.Text
