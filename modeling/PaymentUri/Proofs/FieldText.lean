import PaymentUri.Proofs.EncodedValue

namespace PaymentUri.Escape

open String (utf8EncodeChar)

variable {b : UInt8} {bs ds : List UInt8} {c d : Char} {cs xs ys : List Char} {raw value : String}

theorem isUTF8FirstByte_iff (h : utf8EncodeChar d = bs ++ b :: ds) : b.IsUTF8FirstByte ↔ bs = [] := by
  have hlt : bs.length < (utf8EncodeChar d).length := by simp [h]
  have hb : (utf8EncodeChar d)[bs.length] = b := by
    rw [List.getElem_of_eq h]
    simp
  rw [← hb, UInt8.isUTF8FirstByte_getElem_utf8EncodeChar, List.length_eq_zero_iff]

theorem exists_first_byte (c : Char) : ∃ b ds, utf8EncodeChar c = b :: ds ∧ b.IsUTF8FirstByte := by
  have hne : utf8EncodeChar c ≠ [] := by
    rw [← List.length_pos_iff, String.length_utf8EncodeChar]
    exact c.utf8Size_pos
  obtain ⟨b, ds, h⟩ := List.exists_cons_of_ne_nil hne
  have hfront : utf8EncodeChar c = [] ++ b :: ds := h
  exact ⟨b, ds, h, (isUTF8FirstByte_iff hfront).mpr rfl⟩

theorem utf8EncodeChar_append_inj (h : utf8EncodeChar d ++ bs = utf8EncodeChar c ++ ds) :
    d = c ∧ bs = ds := by
  have hchar := congrArg (fun bs : List UInt8 => bs.toByteArray.utf8DecodeChar? 0) h
  simp only [List.toByteArray_append, ByteArray.utf8DecodeChar?_utf8EncodeChar_append,
    Option.some.injEq] at hchar
  subst hchar
  exact ⟨rfl, List.append_cancel_left h⟩

/-- Where a character is found among the bytes of a text, there it stands in the text. -/
theorem exists_append_cons (h : cs.flatMap utf8EncodeChar = bs ++ (utf8EncodeChar c ++ ds)) :
    ∃ xs ys, cs = xs ++ c :: ys ∧ xs.flatMap utf8EncodeChar = bs ∧ ys.flatMap utf8EncodeChar = ds := by
  obtain ⟨b, tail, hc, hfirst⟩ := exists_first_byte c
  induction cs generalizing bs with
  | nil => simp [hc] at h
  | cons d cs ih =>
      rw [List.flatMap_cons] at h
      rcases List.append_eq_append_iff.mp h with ⟨behind, rfl, hrest⟩ | ⟨inside, hd, hrest⟩
      · obtain ⟨xs, ys, rfl, rfl, rfl⟩ := ih hrest
        exact ⟨d :: xs, ys, rfl, rfl, rfl⟩
      · cases inside with
        | nil =>
            have hfront : cs.flatMap utf8EncodeChar = [] ++ (utf8EncodeChar c ++ ds) := hrest.symm
            obtain ⟨xs, ys, rfl, hxs, rfl⟩ := ih hfront
            refine ⟨d :: xs, ys, rfl, ?_, rfl⟩
            rw [List.flatMap_cons, hxs, hd, List.append_nil, List.append_nil]
        | cons i inside =>
            -- the character would begin inside of another one
            have hi : b = i := by
              rw [hc] at hrest
              exact (List.cons.inj hrest).1
            subst hi
            obtain rfl := (isUTF8FirstByte_iff hd).mp hfirst
            obtain ⟨rfl, rfl⟩ := utf8EncodeChar_append_inj h
            exact ⟨[], cs, rfl, rfl, rfl⟩

theorem decode?_eq_some_iff : decode? raw = some value ↔ value.toList.flatMap utf8EncodeChar = bytes raw.toList := by
  constructor
  · intro h
    rw [← toList_toByteArray, bytes_of_decode? h]
  · intro h
    rw [decode?, ← h, ← toList_toByteArray]
    exact fromUTF8?_toByteArray value

/-- A character beyond ASCII stands for itself, and what is in front of it and behind it is read apart. -/
theorem decode?_append_cons (hc : 128 ≤ c.toNat) (xs ys : List Char) :
    decode? (String.ofList (xs ++ c :: ys)) =
      (decode? (String.ofList xs)).bind fun before =>
        (decode? (String.ofList ys)).map fun behind => before ++ String.singleton c ++ behind := by
  ext value
  rw [decode?_eq_some_iff, String.toList_ofList, bytes_append_cons hc]
  simp only [Option.bind_eq_some_iff, Option.map_eq_some_iff, decode?_eq_some_iff, String.toList_ofList]
  constructor
  · intro h
    obtain ⟨before, behind, hvalue, hbefore, hbehind⟩ := exists_append_cons h
    refine ⟨String.ofList before, by rw [String.toList_ofList, hbefore], String.ofList behind,
      by rw [String.toList_ofList, hbehind], ?_⟩
    rw [← String.toList_inj, hvalue]
    simp
  · rintro ⟨before, hbefore, behind, hbehind, rfl⟩
    simp [hbefore, hbehind]

/-- The runs of ASCII characters of a text: the first one, and the one behind each other character. -/
def runs : List Char → List Char × List (Char × List Char)
  | [] => ([], [])
  | c :: cs =>
      let (run, rest) := runs cs
      if c.toNat < 128 then (c :: run, rest) else ([], (c, run) :: rest)

def readRuns (run : List Char) : List (Char × List Char) → Option String
  | [] => decode? (String.ofList run)
  | (c, next) :: rest =>
      (decode? (String.ofList run)).bind fun before =>
        (readRuns next rest).map fun behind => before ++ String.singleton c ++ behind

def decodeRuns? (text : String) : Option String := readRuns (runs text.toList).1 (runs text.toList).2

def joinRuns (run : List Char) (rest : List (Char × List Char)) : List Char :=
  run ++ rest.flatMap fun p => p.1 :: p.2

theorem joinRuns_cons (run next : List Char) (c : Char) (rest : List (Char × List Char)) :
    joinRuns run ((c, next) :: rest) = run ++ c :: joinRuns next rest := by
  rw [joinRuns, List.flatMap_cons, joinRuns]
  rfl

theorem joinRuns_runs (cs : List Char) : joinRuns (runs cs).1 (runs cs).2 = cs := by
  induction cs with
  | nil => rfl
  | cons c cs ih =>
      rw [runs]
      dsimp only
      split
      next => exact congrArg _ ih
      next => rw [joinRuns_cons, ih, List.nil_append]

theorem beyond_of_mem_runs {p : Char × List Char} (h : p ∈ (runs cs).2) : 128 ≤ p.1.toNat := by
  induction cs with
  | nil => exact absurd h List.not_mem_nil
  | cons c cs ih =>
      rw [runs] at h
      dsimp only at h
      split at h
      next => exact ih h
      next hc =>
        rcases List.mem_cons.mp h with rfl | h
        · exact Nat.not_lt.mp hc
        · exact ih h

theorem decode?_joinRuns {rest : List (Char × List Char)} (h : ∀ p ∈ rest, 128 ≤ p.1.toNat) (run : List Char) :
    decode? (String.ofList (joinRuns run rest)) = readRuns run rest := by
  induction rest generalizing run with
  | nil => rw [joinRuns, List.flatMap_nil, List.append_nil, readRuns]
  | cons p rest ih =>
      obtain ⟨hc, hrest⟩ := List.forall_mem_cons.mp h
      rw [joinRuns_cons, decode?_append_cons hc, ih hrest, readRuns]

theorem decode?_eq_decodeRuns? (text : String) : decode? text = decodeRuns? text := by
  rw [decodeRuns?, ← decode?_joinRuns fun p hp => beyond_of_mem_runs hp, joinRuns_runs, String.ofList_toList]

/-- Every text has one encoded spelling. It is legal in a URI, has none of the characters that divide a query,
and is read back as the text; every other text that can be read has a value with a spelling of its own. -/
theorem encode_is_canonical :
    (∀ text, IsEncoded (encode text).toList ∧ isUriText (encode text) = true ∧
        (∀ c ∈ ['&', '=', '+', '?', '#'], c ∉ (encode text).toList) ∧ decode? (encode text) = some text) ∧
      ∀ raw, decode? raw = decodeRuns? raw ∧
        ∀ value, decode? raw = some value → (encode value = raw ↔ IsEncoded raw.toList) := by
  constructor
  · intro text
    refine ⟨isEncoded_encode text, spells_encode .uri text, fun c hc => ?_, decode?_encode text⟩
    have hreserved : ∀ c ∈ ['&', '=', '+', '?', '#'], isUnreserved c = false ∧ c ≠ '%' := by
      simp [isUnreserved]
    exact not_mem_encode (hreserved c hc).1 (hreserved c hc).2 text
  · exact fun raw => ⟨decode?_eq_decodeRuns? raw, fun value h => encode_eq_iff h⟩

theorem encode_is_canonical_sample :
    decode? "%2B%C3%A9" = some "+é" ∧ IsEncoded "%2B%C3%A9".toList ∧
      decode? "%2bé%25" = some "+é%" ∧ ¬IsEncoded "%2bé%25".toList := by
  have hupper : decode? "%2B%C3%A9" = some "+é" := by decide +kernel
  have hlower : decode? "%2bé%25" = some "+é%" := by decide +kernel
  have hencoded : encode "+é" = "%2B%C3%A9" := by decide +kernel
  have hother : encode "+é%" ≠ "%2bé%25" := by decide +kernel
  exact ⟨hupper, ((encode_is_canonical.2 _).2 _ hupper).mp hencoded, hlower,
    mt ((encode_is_canonical.2 _).2 _ hlower).mpr hother⟩

end PaymentUri.Escape
