import PaymentUri.Proofs.Alphabet

namespace PaymentUri.Escape

variable {c : Char} {cs : List Char}

theorem hexDigit?_hexDigit {n : Nat} (h : n < 16) : Text.hexDigit? (hexDigit n) = some n := by
  have hall : ∀ n : Fin 16, Text.hexDigit? (hexDigit n) = some n.val := by decide
  exact hall ⟨n, h⟩

theorem isHex_hexDigit {n : Nat} (h : n < 16) : Alphabet.isHex (hexDigit n) = true := by
  rw [Alphabet.isHex, hexDigit?_hexDigit h]
  rfl

theorem high_lt (b : UInt8) : b.toNat / 16 < 16 := by
  have := b.toNat_lt
  omega

theorem low_lt (b : UInt8) : b.toNat % 16 < 16 := Nat.mod_lt _ (by decide)

theorem byte?_hexDigits (b : UInt8) :
    byte? (hexDigit (b.toNat / 16)) (hexDigit (b.toNat % 16)) = some b := by
  have hb : 16 * (b.toNat / 16) + b.toNat % 16 = b.toNat := Nat.div_add_mod _ _
  rw [byte?, hexDigit?_hexDigit (high_lt b), hexDigit?_hexDigit (low_lt b)]
  change some (UInt8.ofNat (16 * (b.toNat / 16) + b.toNat % 16)) = some b
  rw [hb, UInt8.ofNat_toNat]

theorem val_le_of_isAlphanum (h : c.isAlphanum = true) : c.val ≤ 'z'.val := by
  have hc : (c.isUpper || c.isLower || c.isDigit) = true := h
  rw [Bool.or_eq_true, Bool.or_eq_true] at hc
  rcases hc with (hupper | hlower) | hdigit
  · have hu : 'A'.val ≤ c.val ∧ c.val ≤ 'Z'.val := of_decide_eq_true hupper
    exact UInt32.le_trans hu.2 (by decide)
  · exact of_decide_eq_true (Bool.and_eq_true_iff.mp hlower).2
  · have hd : c.val ≤ '9'.val := of_decide_eq_true (Bool.and_eq_true_iff.mp hdigit).2
    exact UInt32.le_trans hd (by decide)

theorem toNat_lt_of_isUnreserved (h : isUnreserved c = true) : c.toNat < 128 := by
  simp only [isUnreserved, Bool.or_eq_true, beq_iff_eq] at h
  rcases h with (((h | rfl) | rfl) | rfl) | rfl
  · exact Nat.lt_of_le_of_lt (UInt32.le_iff_toNat_le.mp (val_le_of_isAlphanum h)) (by decide)
  all_goals decide

theorem toNat_lt_of_contains (h : Alphabet.uri.contains c = true) : c.toNat < 128 := by
  rcases Alphabet.contains_iff.mp h with hu | hd
  · exact toNat_lt_of_isUnreserved hu
  · have hall : Alphabet.uri.delimiters.all (·.toNat < 128) = true := by decide
    exact of_decide_eq_true (List.all_eq_true.mp hall c hd)

theorem toNat_ofNat_byte (b : UInt8) : (Char.ofNat b.toNat).toNat = b.toNat := by
  have hb : b.toNat.isValidChar := .inl (Nat.lt_trans b.toNat_lt (by decide))
  rw [Char.ofNat, dif_pos hb]
  rfl

theorem utf8EncodeChar_of_lt (h : c.toNat < 128) :
    String.utf8EncodeChar c = [UInt8.ofNat c.toNat] := by
  rw [String.utf8EncodeChar]
  exact if_pos (Nat.le_of_lt_succ h)

theorem bytes_cons_of_ne (hplus : c ≠ '+') (hpercent : c ≠ '%') :
    bytes (c :: cs) = String.utf8EncodeChar c ++ bytes cs := by
  rw [bytes]
  · exact hplus
  · rintro a b ds rfl
    exact absurd rfl hpercent

theorem bytes_escape {a b : Char} {octet : UInt8} (h : byte? a b = some octet) :
    bytes ('%' :: a :: b :: cs) = octet :: bytes cs := by
  rw [bytes, h]

theorem isHex_eq_false (hc : 128 ≤ c.toNat) : Alphabet.isHex c = false := by
  rw [← Bool.not_eq_true]
  intro h
  exact absurd (toNat_lt_of_isUnreserved (Alphabet.isUnreserved_of_isHex h)) (Nat.not_lt.mpr hc)

theorem bytes_percent (h : Alphabet.startsHex cs = false) : bytes ('%' :: cs) = 0x25 :: bytes cs := by
  match cs with
  | [] | [_] => rfl
  | a :: b :: cs =>
      have hbyte : byte? a b = none := by
        rw [← Option.not_isSome_iff_eq_none, Alphabet.byte?_isSome, Bool.not_eq_true]
        exact h
      rw [bytes, hbyte]

/-- A character beyond ASCII is no part of an escape. -/
theorem bytes_append_cons (hc : 128 ≤ c.toNat) (xs ys : List Char) :
    bytes (xs ++ c :: ys) = bytes xs ++ (String.utf8EncodeChar c ++ bytes ys) := by
  have hself : bytes (c :: ys) = String.utf8EncodeChar c ++ bytes ys := by
    refine bytes_cons_of_ne ?_ ?_ <;>
      · rintro rfl
        exact absurd hc (by decide)
  fun_induction bytes xs with
  | case1 => exact hself
  | case2 xs ih => rw [List.cons_append, bytes, ih, List.cons_append]
  | case3 a b xs octet ho ih =>
      rw [List.cons_append, List.cons_append, List.cons_append, bytes_escape ho, ih, List.cons_append]
  | case4 a b xs ho ih =>
      have hstarts : Alphabet.startsHex (a :: b :: (xs ++ c :: ys)) = false := by
        have hsome := Alphabet.byte?_isSome a b
        rw [ho] at hsome
        exact hsome.symm
      rw [List.cons_append, List.cons_append, List.cons_append, bytes_percent hstarts]
      exact congrArg _ ih
  | case5 x xs hplus hpercent ih =>
      by_cases hx : x = '%'
      · subst hx
        -- two digits behind the percent sign would have been the case of an escape
        have hstarts : Alphabet.startsHex xs = false := by
          match xs with
          | [] | [_] => rfl
          | a :: b :: xs => exact absurd rfl (hpercent a b xs rfl)
        rw [List.cons_append, bytes_percent, ih]
        · rfl
        · rw [Alphabet.startsHex_append_cons (isHex_eq_false hc), hstarts]
      · rw [List.cons_append, bytes_cons_of_ne hplus hx, ih, List.append_assoc]

theorem ne_of_isUnreserved (h : isUnreserved c = true) {d : Char} (hd : isUnreserved d = false) :
    c ≠ d := by
  rintro rfl
  rw [hd] at h
  exact Bool.false_ne_true h

theorem bytes_encodeByte (b : UInt8) (rest : List Char) :
    bytes (encodeByte b ++ rest) = b :: bytes rest := by
  rw [encodeByte]
  split
  next hu =>
    have hlt := toNat_lt_of_isUnreserved hu
    rw [List.singleton_append, bytes_cons_of_ne (ne_of_isUnreserved hu (by decide))
      (ne_of_isUnreserved hu (by decide))]
    have hc := toNat_ofNat_byte b
    rw [hc] at hlt
    rw [utf8EncodeChar_of_lt (by omega), hc, UInt8.ofNat_toNat, List.singleton_append]
  next hu =>
    rw [List.cons_append, List.cons_append, List.cons_append, List.nil_append, bytes_escape (byte?_hexDigits b)]

theorem bytes_flatMap_encodeByte (bs : List UInt8) : bytes (bs.flatMap encodeByte) = bs := by
  induction bs with
  | nil => rfl
  | cons b bs ih => rw [List.flatMap_cons, bytes_encodeByte, ih]

theorem toList_encode (text : String) :
    (encode text).toList = text.toByteArray.data.toList.flatMap encodeByte := by
  rw [encode, String.toList_ofList]

theorem fromUTF8?_toByteArray (text : String) : String.fromUTF8? text.toByteArray = some text := by
  rw [String.fromUTF8?, dif_pos text.isValidUTF8]
  rfl

theorem decode?_encode (text : String) : decode? (encode text) = some text := by
  rw [decode?, toList_encode, bytes_flatMap_encodeByte]
  exact fromUTF8?_toByteArray text

theorem spells_encodeByte (alphabet : Alphabet) (b : UInt8) :
    alphabet.spells (encodeByte b) = true := by
  rw [encodeByte]
  split
  next hu =>
    simp [Alphabet.spells_cons, Alphabet.contains_of_isUnreserved hu, Alphabet.spells]
  next hu =>
    rw [Alphabet.spells, Alphabet.byte?_isSome, isHex_hexDigit (high_lt b), isHex_hexDigit (low_lt b)]
    rfl

theorem spells_encode (alphabet : Alphabet) (text : String) :
    alphabet.spells (encode text).toList = true := by
  rw [toList_encode]
  induction text.toByteArray.data.toList with
  | nil => rfl
  | cons b bs ih =>
      rw [List.flatMap_cons, Alphabet.spells_append (spells_encodeByte alphabet b), ih]

theorem isUnreserved_of_mem_encode {text : String} (h : c ∈ (encode text).toList) :
    isUnreserved c = true ∨ c = '%' := by
  rw [toList_encode, List.mem_flatMap] at h
  obtain ⟨b, -, hc⟩ := h
  rw [encodeByte] at hc
  split at hc
  next hu =>
    rw [List.mem_singleton.mp hc]
    exact .inl hu
  next hu =>
    simp only [List.mem_cons, List.not_mem_nil, or_false] at hc
    rcases hc with rfl | rfl | rfl
    · exact .inr rfl
    · exact .inl (Alphabet.isUnreserved_of_isHex (isHex_hexDigit (high_lt b)))
    · exact .inl (Alphabet.isUnreserved_of_isHex (isHex_hexDigit (low_lt b)))

theorem not_mem_encode (hc : isUnreserved c = false) (hp : c ≠ '%') (text : String) :
    c ∉ (encode text).toList := by
  intro h
  rcases isUnreserved_of_mem_encode h with hu | rfl
  · rw [hc] at hu
    exact Bool.false_ne_true hu
  · exact hp rfl

theorem encodeByte_of_isUnreserved (h : isUnreserved c = true) :
    (String.utf8EncodeChar c).flatMap encodeByte = [c] := by
  have hlt := toNat_lt_of_isUnreserved h
  have hb : (UInt8.ofNat c.toNat).toNat = c.toNat := by
    rw [UInt8.toNat_ofNat']
    exact Nat.mod_eq_of_lt (by omega)
  rw [utf8EncodeChar_of_lt hlt, List.flatMap_singleton, encodeByte, hb, Char.ofNat_toNat]
  exact if_pos h

theorem toList_toByteArray (text : String) :
    text.toByteArray.data.toList = text.toList.flatMap String.utf8EncodeChar := by
  rw [← String.utf8Encode_toList, List.utf8Encode]
  simp

theorem encode_of_isUnreserved {text : String} (h : ∀ c ∈ text.toList, isUnreserved c = true) :
    encode text = text := by
  rw [← String.toList_inj, toList_encode, toList_toByteArray, List.flatMap_assoc]
  generalize text.toList = cs at h
  induction cs with
  | nil => rfl
  | cons c cs ih =>
      rw [List.forall_mem_cons] at h
      rw [List.flatMap_cons, encodeByte_of_isUnreserved h.1, ih h.2]
      rfl

end PaymentUri.Escape
