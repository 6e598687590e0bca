import PaymentUri.Address
import PaymentUri.Proofs.Radix
import PaymentUri.Proofs.Check

namespace PaymentUri

theorem Digest.length_hash (message : List UInt8) : (hash message).length = 32 := by
  simp [hash, Chain.bytes, bytesOfWord]

namespace Base58

variable {c : Char} {cs : List Char} {n : Nat} {ds : List Nat} {text : String} {bytes payload : List UInt8}
variable {version : UInt8} {fault : Fault}

theorem value?_digit (hn : n < 58) : value? (digit n) = some n := by
  have hall : ∀ n : Fin 58, value? (digit n) = some n.val := by decide
  exact hall ⟨n, hn⟩

theorem value?_eq_some_iff : value? c = some n ↔ n < 58 ∧ digit n = c := by
  constructor
  · intro h
    obtain ⟨hn, hc, -⟩ := List.findIdx?_eq_some_iff_getElem.mp h
    refine ⟨hn, ?_⟩
    rw [digit, List.getD_eq_getElem?_getD, List.getElem?_eq_getElem hn]
    exact eq_of_beq hc
  · rintro ⟨hn, rfl⟩
    exact value?_digit hn

theorem values_eq_ok_iff : values cs = .ok ds ↔ (∀ d ∈ ds, d < 58) ∧ ds.map digit = cs := by
  induction cs generalizing ds with
  | nil =>
      cases ds <;> simp [values]
  | cons c cs ih =>
      rw [values]
      constructor
      · intro h
        split at h
        next => cases h
        next d hd =>
          obtain ⟨hlt, hc⟩ := value?_eq_some_iff.mp hd
          cases hv : values cs with
          | error fault =>
              rw [hv] at h
              cases h
          | ok es =>
              obtain ⟨hes, hcs⟩ := ih.mp hv
              rw [hv] at h
              cases h
              rw [List.forall_mem_cons, List.map_cons, hc, hcs]
              exact ⟨⟨hlt, hes⟩, rfl⟩
      · rintro ⟨hds, hmap⟩
        cases ds with
        | nil => cases hmap
        | cons d es =>
            rw [List.forall_mem_cons] at hds
            obtain ⟨hd, hes⟩ := List.cons.inj hmap
            rw [value?_eq_some_iff.mpr ⟨hds.1, hd⟩, ih.mpr ⟨hds.2, hes⟩]
            rfl

theorem digit_eq_one_iff (hn : n < 58) : (digit n == '1') = (n == 0) := by
  have hall : ∀ n : Fin 58, (digit n == '1') = (n.val == 0) := by decide
  exact hall ⟨n, hn⟩

theorem takeWhile_one_map_digit (h : ∀ d ∈ ds, d < 58) :
    (ds.map digit).takeWhile (· == '1') = (ds.takeWhile (· == 0)).map digit := by
  induction ds with
  | nil => rfl
  | cons d ds ih =>
      rw [List.forall_mem_cons] at h
      rw [List.map_cons, List.takeWhile_cons, List.takeWhile_cons, digit_eq_one_iff h.1, ih h.2]
      split <;> rfl

theorem replicate_zeros (ds : List Nat) :
    List.replicate (ds.takeWhile (· == 0)).length 0 = ds.takeWhile (· == 0) :=
  (List.eq_replicate_of_mem fun _ => eq_zero_of_mem_takeWhile).symm

theorem encode_eq (bytes : List UInt8) :
    encode bytes = String.ofList ((convert 256 58 (bytes.map UInt8.toNat)).map digit) := by
  have hzeros : (bytes.map UInt8.toNat).takeWhile (· == 0) =
      (bytes.takeWhile (· == 0)).map UInt8.toNat := by
    rw [List.takeWhile_map]
    congr 2
    funext b
    rw [Function.comp_apply, Bool.eq_iff_iff, beq_iff_eq, beq_iff_eq, ← UInt8.toNat_inj]
    rfl
  rw [encode, convert, List.map_append, ← replicate_zeros, hzeros, List.length_map, List.map_replicate]
  rfl

theorem decode_of_values (h : values text.toList = .ok ds) :
    decode text = .ok ((convert 58 256 ds).map UInt8.ofNat) := by
  obtain ⟨hds, hmap⟩ := values_eq_ok_iff.mp h
  rw [decode, h, convert, List.map_append, ← replicate_zeros, List.map_replicate, ← hmap,
    takeWhile_one_map_digit hds]
  change Except.ok _ = _
  rw [List.length_map]
  rfl

theorem decode_eq_ok_iff : decode text = .ok bytes ↔ encode bytes = text := by
  have hbytes : ∀ d ∈ bytes.map UInt8.toNat, d < 256 := by
    intro d hd
    obtain ⟨b, -, rfl⟩ := List.mem_map.mp hd
    exact b.toNat_lt
  constructor
  · intro h
    cases hv : values text.toList with
    | error fault =>
        rw [decode, hv] at h
        cases h
    | ok ds =>
        obtain ⟨hds, hmap⟩ := values_eq_ok_iff.mp hv
        rw [decode_of_values hv, Except.ok.injEq] at h
        have hnat : bytes.map UInt8.toNat = convert 58 256 ds := by
          rw [← h, List.map_map]
          conv_rhs => rw [← List.map_id (convert 58 256 ds)]
          apply List.map_congr_left
          intro d hd
          exact UInt8.toNat_ofNat_of_lt (lt_of_mem_convert (by decide) hd)
        rw [encode_eq, hnat, convert_convert (by decide) (by decide) hds, hmap, String.ofList_toList]
  · rintro rfl
    have hv : values (encode bytes).toList = .ok (convert 256 58 (bytes.map UInt8.toNat)) := by
      rw [encode_eq, String.toList_ofList]
      exact values_eq_ok_iff.mpr ⟨fun d hd => lt_of_mem_convert (by decide) hd, rfl⟩
    rw [decode_of_values hv, convert_convert (by decide) (by decide) hbytes, List.map_map]
    have hid : UInt8.ofNat ∘ UInt8.toNat = id := funext fun b => UInt8.ofNat_toNat
    rw [hid, List.map_id]

theorem digit_mem_alphabet (n : Nat) : digit n ∈ alphabet := by
  rw [digit, List.getD_eq_getElem?_getD]
  cases h : alphabet[n]? with
  | none => exact List.mem_cons_self
  | some c => exact List.mem_of_getElem? h

theorem mem_alphabet_of_mem_encode (h : c ∈ (encode bytes).toList) : c ∈ alphabet := by
  rw [encode_eq, String.toList_ofList] at h
  obtain ⟨n, -, rfl⟩ := List.mem_map.mp h
  exact digit_mem_alphabet n

theorem value?_eq_none_iff : value? c = none ↔ c ∉ alphabet := by
  rw [value?, List.findIdx?_eq_none_iff]
  constructor
  · intro h hc
    have hself := h c hc
    rw [beq_self_eq_true] at hself
    cases hself
  · intro h d hd
    exact beq_false_of_ne fun he => h (he ▸ hd)

theorem values_eq_error_iff :
    values cs = .error fault ↔ ∃ c, cs.find? (· ∉ alphabet) = some c ∧ fault = .badCharacter c := by
  induction cs with
  | nil => simp [values]
  | cons c cs ih =>
      rw [values]
      split
      next hnone =>
        rw [List.find?_cons_of_pos (by simpa using value?_eq_none_iff.mp hnone)]
        simp [eq_comm]
      next d hd =>
        have hc : c ∈ alphabet := by
          rw [← (value?_eq_some_iff.mp hd).2]
          exact digit_mem_alphabet d
        rw [List.find?_cons_of_neg (by simpa using hc), ← ih]
        cases values cs <;> simp [Except.map]

theorem decode_eq_error_iff :
    decode text = .error fault ↔ ∃ c, text.toList.find? (· ∉ alphabet) = some c ∧ fault = .badCharacter c := by
  rw [← values_eq_error_iff]
  cases hv : values text.toList with
  | error other =>
      have hd : decode text = .error other := by
        rw [decode, hv]
        rfl
      rw [hd, Except.error.injEq, Except.error.injEq]
  | ok ds => simp [decode_of_values hv]

theorem exists_decode (h : ∀ c ∈ text.toList, c ∈ alphabet) : ∃ bytes, decode text = .ok bytes := by
  cases hd : decode text with
  | ok bytes => exact ⟨bytes, rfl⟩
  | error fault =>
      obtain ⟨c, hc, -⟩ := decode_eq_error_iff.mp hd
      have hforeign : c ∉ alphabet := by simpa using List.find?_some hc
      exact absurd (h c (List.mem_of_find?_eq_some hc)) hforeign

/-- Bytes and texts over the alphabet are the same thing: bytes are read back from their text, every text over
the alphabet is that of the bytes that are read from it, and any other text is refused with its first character
that is not in the alphabet. -/
theorem decode_inverts_encode :
    (∀ bytes, decode (encode bytes) = .ok bytes ∧ ∀ c ∈ (encode bytes).toList, c ∈ alphabet) ∧
      (∀ text, (∀ c ∈ text.toList, c ∈ alphabet) → ∃ bytes, decode text = .ok bytes ∧ encode bytes = text) ∧
      ∀ text fault, decode text = .error fault ↔
        ∃ c, text.toList.find? (· ∉ alphabet) = some c ∧ fault = .badCharacter c ∧
          fault.message = "Invalid Base58 character: " ++ Text.quoted (String.singleton c) := by
  refine ⟨fun bytes => ⟨decode_eq_ok_iff.mpr rfl, fun c => mem_alphabet_of_mem_encode⟩, fun text h => ?_,
    fun text fault => ?_⟩
  · obtain ⟨bytes, hbytes⟩ := exists_decode h
    exact ⟨bytes, hbytes, decode_eq_ok_iff.mp hbytes⟩
  · rw [decode_eq_error_iff]
    refine exists_congr fun c => and_congr_right fun _ => ?_
    constructor
    · rintro rfl
      exact ⟨rfl, rfl⟩
    · exact And.left

theorem decode_inverts_encode_sample :
    (∀ c ∈ "11Zz".toList, c ∈ alphabet) ∧ (∃ bytes, decode "11Zz" = .ok bytes ∧ encode bytes = "11Zz") ∧
      decode "D0OIl" = .error (.badCharacter '0') := by
  have hdigits : "11Zz".toList ⊆ alphabet := by decide
  exact ⟨fun _ hc => hdigits hc, decode_inverts_encode.2.1 _ fun _ hc => hdigits hc,
    (decode_inverts_encode.2.2 _ _).mpr ⟨'0', by decide, rfl, rfl⟩⟩

theorem length_checksum (bytes : List UInt8) : (checksum bytes).length = checksumLength := by
  rw [checksum, List.length_take, Digest.length_hash]
  rfl

theorem decodeChecked_eq_ok_iff_decode :
    decodeChecked text = .ok (version, payload) ↔
      decode text = .ok (version :: payload ++ checksum (version :: payload)) := by
  rw [decodeChecked, bind_eq_ok_iff]
  constructor
  · rintro ⟨raw, hraw, h⟩
    rw [hraw]
    dsimp only at h
    split at h
    next => cases h
    next v p htake =>
      split at h
      next hsum =>
        cases h
        rw [hsum, ← htake, List.take_append_drop]
      next => cases h
  · intro h
    refine ⟨_, h, ?_⟩
    have hsize : (version :: payload ++ checksum (version :: payload)).length - checksumLength =
        (version :: payload).length := by
      rw [List.length_append, length_checksum, Nat.add_sub_cancel]
    simp only [hsize, List.take_left', List.drop_left', if_true]
    rfl

theorem decodeChecked_eq_ok_iff :
    decodeChecked text = .ok (version, payload) ↔ encodeChecked version payload = text := by
  rw [decodeChecked_eq_ok_iff_decode, decode_eq_ok_iff]
  rfl

theorem mem_alphabet_of_decodeChecked {p : UInt8 × List UInt8} (h : decodeChecked text = .ok p) :
    ∀ c ∈ text.toList, c ∈ alphabet := by
  rw [← decodeChecked_eq_ok_iff.mp h]
  exact fun c => mem_alphabet_of_mem_encode

/-- The form with a checksum stands for a version and a payload in exactly one way. What is written is
read back, what is read is written as the text that it was read from, and a text that is nobody's
form has a fault. The hash is a function to thirty-two bytes, and nothing more is asked of it. -/
theorem decodeChecked_inverts_encodeChecked :
    (∀ version payload, decodeChecked (encodeChecked version payload) = .ok (version, payload)) ∧
      (∀ text, match decodeChecked text with
        | .ok (version, payload) => encodeChecked version payload = text
        | .error _ => ∀ version payload, encodeChecked version payload ≠ text) ∧
      ∀ message, (Digest.hash message).length = 32 := by
  refine ⟨fun _ _ => decodeChecked_eq_ok_iff.mpr rfl, fun text => ?_, Digest.length_hash⟩
  cases h : decodeChecked text with
  | ok p => exact decodeChecked_eq_ok_iff.mp h
  | error fault =>
      intro version payload hw
      rw [decodeChecked_eq_ok_iff.mpr hw] at h
      cases h

end Base58

end PaymentUri
