import PaymentUri.Proofs.Literal

namespace PaymentUri.Text

variable {c : Char} {cs : List Char} {n : Int} {negative : Bool} {p : Char → Bool} {fault : IntegerFault}

theorem toList_toString (n : Int) :
    (toString n).toList = signed (n < 0) (Nat.toDigits 10 n.natAbs) := by
  cases n with
  | ofNat m => exact Nat.toList_repr
  | negSucc m =>
      rw [decide_eq_true (Int.negSucc_lt_zero m)]
      change ("-" ++ (m + 1).repr).toList = '-' :: Nat.toDigits 10 (m + 1)
      rw [String.toList_append, Nat.toList_repr]
      exact List.singleton_append

theorem isDigit_of_mem_signed (h : ∀ c ∈ cs, c.isDigit = true) :
    ∀ c ∈ signed negative cs, c.isDigit = true ∨ c = '-' := by
  intro c hc
  cases negative with
  | true =>
      rcases List.mem_cons.mp hc with rfl | hc
      · exact .inr rfl
      · exact .inl (h c hc)
  | false => exact .inl (h c hc)

theorem digitCount_le_of_lt {k m : Nat} (hk : 0 < k) (h : m < Nat.pow 10 k) : digitCount m ≤ k :=
  (digitCount_le_iff hk).mpr h

theorem digitCount_le_of_isWritable (h : isWritable n = true) : digitCount n.natAbs ≤ maxDigits :=
  digitCount_le_of_lt (by decide) (of_decide_eq_true h)

theorem signed_natAbs (n : Int) :
    (if decide (n < 0) = true then -Int.ofNat n.natAbs else Int.ofNat n.natAbs) = n := by
  cases n with
  | ofNat k => rfl
  | negSucc k =>
      rw [decide_eq_true (Int.negSucc_lt_zero k)]
      rfl

theorem forall_isDigit {P : Char → Prop} (h : ∀ n < 58, 48 ≤ n → P (Char.ofNat n)) (hc : c.isDigit = true) : P c := by
  obtain ⟨hlow, hhigh⟩ := Char.isDigit_iff_toNat.mp hc
  have hlow : 48 ≤ c.toNat := hlow
  have hhigh : c.toNat ≤ 57 := hhigh
  rw [← Char.ofNat_toNat c]
  exact h _ (by omega) hlow

theorem digit?_of_isDigit (h : c.isDigit = true) : digit? c = some (c.toNat - '0'.toNat) :=
  forall_isDigit (P := fun c => digit? c = some (c.toNat - '0'.toNat)) (by decide) h

theorem digitIn?_of_isDigit (h : c.isDigit = true) : digitIn? 10 c = some (c.toNat - '0'.toNat) := by
  rw [digitIn?, digit?_of_isDigit h, Option.some_or, Option.filter_some, decide_eq_true (digit_lt h), if_pos rfl]

theorem digitValues?_of_isDigits (h : IsDigits cs) :
    digitValues? 10 cs = some (cs.map fun c => c.toNat - '0'.toNat) := by
  obtain ⟨hne, hdigits⟩ := h
  induction cs with
  | nil => exact absurd rfl hne
  | cons c cs ih =>
      obtain ⟨hc, hcs⟩ := List.forall_mem_cons.mp hdigits
      cases cs with
      | nil =>
          rw [digitValues?, digitIn?_of_isDigit hc]
          rfl
      | cons d ds =>
          have hd : d ≠ '_' := isDigit_ne (hcs d List.mem_cons_self) (by decide)
          rw [digitValues?, digitIn?_of_isDigit hc, ih (List.cons_ne_nil d ds) hcs]
          · rfl
          · exact List.cons_ne_nil d ds
          · rintro es h
            exact hd (List.cons.inj h).1

theorem dropBaseMark_ten (cs : List Char) : dropBaseMark 10 cs = cs := by
  rw [dropBaseMark.eq_def]
  split
  next => exact if_neg Bool.false_ne_true
  next => rfl

theorem naturalIn_of_isDigits (h : IsDigits cs) (hlength : cs.length ≤ maxDigits) :
    naturalIn 10 fault cs = .ok (ofDigits cs) := by
  have hspan : (cs.span fun c => c == '_' || (digitIn? 10 c).isSome) = (cs, []) := by
    have hall : ∀ c ∈ cs, (c == '_' || (digitIn? 10 c).isSome) = true := by
      intro c hc
      rw [digitIn?_of_isDigit (h.2 c hc), Option.isSome_some, Bool.or_true]
    rw [List.span_eq_takeWhile_dropWhile, List.takeWhile_eq_self_iff.mpr hall, List.dropWhile_eq_nil_iff.mpr hall]
  rw [naturalIn, dropBaseMark_ten, hspan]
  dsimp only
  rw [digitValues?_of_isDigits h]
  dsimp only
  rw [List.length_map, if_neg (fun hlong => absurd hlong.2 (Nat.not_lt.mpr hlength)), if_pos rfl, List.foldl_map]
  rfl

theorem trim_eq_self (h : ∀ c ∈ cs, p c = false) : trim p cs = cs := by
  have hdrop : ∀ ds : List Char, (∀ c ∈ ds, p c = false) → ds.dropWhile p = ds := fun ds hds =>
    List.dropWhile_eq_self_iff.mpr fun hpos => Bool.eq_false_iff.mp (hds _ (List.getElem_mem hpos))
  have hreverse : ∀ c ∈ cs.reverse, p c = false := fun c hc => h c (List.mem_reverse.mp hc)
  rw [trim, hdrop cs h, hdrop _ hreverse, List.reverse_reverse]

theorem isWhite_of_isDigit (h : c.isDigit = true) : isWhite c = false :=
  forall_isDigit (P := (isWhite · = false)) (by decide) h

theorem trim_signed (hdigits : ∀ c ∈ cs, c.isDigit = true) :
    trim isWhite (signed negative cs) = signed negative cs := by
  refine trim_eq_self fun c hc => ?_
  rcases isDigit_of_mem_signed hdigits c hc with hc | rfl
  · exact isWhite_of_isDigit hc
  · rfl

theorem integerIn_signed (negative : Bool) (h : IsDigits cs) (hlength : cs.length ≤ maxDigits) :
    integerIn 10 (signed negative cs) =
      .ok (if negative then -Int.ofNat (ofDigits cs) else Int.ofNat (ofDigits cs)) := by
  rw [integerIn, trim_signed h.2]
  cases negative with
  | true =>
      change (naturalIn 10 _ cs).map _ = _
      rw [naturalIn_of_isDigits h hlength]
      rfl
  | false =>
      obtain ⟨c, ds, hc, rfl⟩ := h.exists_cons
      rw [signed, if_neg Bool.false_ne_true]
      split
      next he => exact absurd (List.cons.inj he).1 (isDigit_ne hc (by decide))
      next he => exact absurd (List.cons.inj he).1 (isDigit_ne hc (by decide))
      next =>
        rw [naturalIn_of_isDigits h hlength, if_neg Bool.false_ne_true]
        rfl

theorem integer?_toString (h : isWritable n = true) : integer? (toString n) = some n := by
  rw [integer?, toList_toString, integerIn_signed _ (isDigits_toDigits n.natAbs) (digitCount_le_of_isWritable h),
    ofDigits_toDigits, signed_natAbs]
  rfl

end PaymentUri.Text
