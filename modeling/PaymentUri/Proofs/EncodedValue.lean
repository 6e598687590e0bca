import PaymentUri.Proofs.Escape

namespace PaymentUri.Escape

variable {a b : Char} {cs : List Char} {raw value : String} {octet : UInt8}

def isUpperHex (c : Char) : Bool := c.isDigit || ('A' ≤ c && c ≤ 'F')

/-- Unreserved characters, and upper-case escapes of the bytes that are none. -/
inductive IsEncoded : List Char → Prop
  | nil : IsEncoded []
  | unreserved (c : Char) (cs : List Char) (hc : isUnreserved c = true) (hcs : IsEncoded cs) :
      IsEncoded (c :: cs)
  | escaped (a b : Char) (octet : UInt8) (cs : List Char) (ha : isUpperHex a = true)
      (hb : isUpperHex b = true) (ho : byte? a b = some octet)
      (hu : isUnreserved (Char.ofNat octet.toNat) = false) (hcs : IsEncoded cs) :
      IsEncoded ('%' :: a :: b :: cs)

theorem isUpperHex_hexDigit {n : Nat} (h : n < 16) : isUpperHex (hexDigit n) = true := by
  have hall : ∀ n : Fin 16, isUpperHex (hexDigit n) = true := by decide
  exact hall ⟨n, h⟩

theorem hexDigit_of_isUpperHex {n : Nat} (h : isUpperHex a = true)
    (hn : Text.hexDigit? a = some n) : n < 16 ∧ hexDigit n = a := by
  have hhex : Alphabet.isHex a = true := by rw [Alphabet.isHex, hn]; rfl
  have hlt : a.toNat < 128 := toNat_lt_of_isUnreserved (Alphabet.isUnreserved_of_isHex hhex)
  have hall : ∀ k : Fin 128, isUpperHex (Char.ofNat k) = true →
      ∀ n ∈ Text.hexDigit? (Char.ofNat k), n < 16 ∧ hexDigit n = Char.ofNat k := by decide
  have ha := hall ⟨a.toNat, hlt⟩
  simp only [Char.ofNat_toNat] at ha
  exact ha h n hn

theorem isEncoded_append {xs ys : List Char} (hx : IsEncoded xs) (hy : IsEncoded ys) :
    IsEncoded (xs ++ ys) := by
  induction hx with
  | nil => exact hy
  | unreserved c cs hc _ ih => exact .unreserved c _ hc ih
  | escaped a b octet cs ha hb ho hu _ ih => exact .escaped a b octet _ ha hb ho hu ih

theorem isEncoded_encodeByte (octet : UInt8) : IsEncoded (encodeByte octet) := by
  rw [encodeByte]
  split
  next hu => exact .unreserved _ _ hu .nil
  next hu =>
    exact .escaped _ _ octet _ (isUpperHex_hexDigit (high_lt octet))
      (isUpperHex_hexDigit (low_lt octet)) (byte?_hexDigits octet) (by simpa using hu) .nil

theorem isEncoded_encode (text : String) : IsEncoded (encode text).toList := by
  rw [toList_encode]
  induction text.toByteArray.data.toList with
  | nil => exact .nil
  | cons octet bs ih =>
      rw [List.flatMap_cons]
      exact isEncoded_append (isEncoded_encodeByte octet) ih

theorem encodeByte_of_byte? (ha : isUpperHex a = true) (hb : isUpperHex b = true)
    (ho : byte? a b = some octet) (hu : isUnreserved (Char.ofNat octet.toNat) = false) :
    encodeByte octet = ['%', a, b] := by
  obtain ⟨m, hm, ho⟩ := Option.bind_eq_some_iff.mp ho
  obtain ⟨n, hn, ho⟩ := Option.bind_eq_some_iff.mp ho
  obtain ⟨hm16, hma⟩ := hexDigit_of_isUpperHex ha hm
  obtain ⟨hn16, hnb⟩ := hexDigit_of_isUpperHex hb hn
  have hvalue : octet.toNat = 16 * m + n := by
    rw [← Option.some.inj ho, UInt8.toNat_ofNat']
    exact Nat.mod_eq_of_lt (by omega)
  have hhigh : octet.toNat / 16 = m := by omega
  have hlow : octet.toNat % 16 = n := by omega
  rw [encodeByte, hu, if_neg Bool.false_ne_true, hhigh, hlow, hma, hnb]

theorem flatMap_encodeByte_bytes (h : IsEncoded cs) : (bytes cs).flatMap encodeByte = cs := by
  induction h with
  | nil => rfl
  | unreserved c cs hc _ ih =>
      rw [bytes_cons_of_ne (ne_of_isUnreserved hc (by decide)) (ne_of_isUnreserved hc (by decide)),
        List.flatMap_append, encodeByte_of_isUnreserved hc, ih]
      rfl
  | escaped a b octet cs ha hb ho hu _ ih =>
      rw [bytes_escape ho, List.flatMap_cons, ih, encodeByte_of_byte? ha hb ho hu]
      rfl

theorem bytes_of_decode? (h : decode? raw = some value) :
    value.toByteArray.data.toList = bytes raw.toList := by
  rw [decode?, String.fromUTF8?] at h
  split at h
  next hv =>
    rw [← Option.some.inj h]
    rfl
  next => cases h

theorem encode_eq_iff (h : decode? raw = some value) : encode value = raw ↔ IsEncoded raw.toList := by
  constructor
  · rintro rfl
    exact isEncoded_encode value
  · intro he
    rw [← String.toList_inj, toList_encode, bytes_of_decode? h, flatMap_encodeByte_bytes he]

theorem isEncoded_of_isUnreserved (h : ∀ c ∈ cs, isUnreserved c = true) : IsEncoded cs := by
  induction cs with
  | nil => exact .nil
  | cons c cs ih =>
      rw [List.forall_mem_cons] at h
      exact .unreserved c cs h.1 (ih h.2)

end PaymentUri.Escape
