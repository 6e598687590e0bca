import PaymentUri.Proofs.Escape
import PaymentUri.Proofs.Grammar

namespace PaymentUri.Escape

variable {cs : List Char} {octets : List UInt8}

/-- The spellings of bytes in a value: any byte may be escaped, a space may be a plus sign, and a
character that is neither a plus sign nor a percent sign stands for itself. -/
inductive Denotes : List Char → List UInt8 → Prop
  | nil : Denotes [] []
  | plus (cs : List Char) (octets : List UInt8) (h : Denotes cs octets) :
      Denotes ('+' :: cs) (0x20 :: octets)
  | escape (a b : Char) (octet : UInt8) (cs : List Char) (octets : List UInt8)
      (ho : byte? a b = some octet) (h : Denotes cs octets) : Denotes ('%' :: a :: b :: cs) (octet :: octets)
  | self (c : Char) (cs : List Char) (octets : List UInt8) (hplus : c ≠ '+') (hpercent : c ≠ '%')
      (hascii : c.toNat < 128) (h : Denotes cs octets) : Denotes (c :: cs) (UInt8.ofNat c.toNat :: octets)

theorem bytes_of_denotes (h : Denotes cs octets) : bytes cs = octets := by
  induction h with
  | nil => rfl
  | plus cs octets _ ih => rw [bytes, ih]
  | escape a b octet cs octets ho _ ih => rw [bytes_escape ho, ih]
  | self c cs octets hplus hpercent hascii _ ih =>
      rw [bytes_cons_of_ne hplus hpercent, utf8EncodeChar_of_lt hascii, ih, List.singleton_append]

theorem denotes_bytes (h : Alphabet.uri.spells cs = true) : Denotes cs (bytes cs) := by
  fun_induction bytes cs with
  | case1 => exact .nil
  | case2 cs ih =>
      rw [Alphabet.spells_cons_of_ne (by decide), Bool.and_eq_true] at h
      exact .plus cs _ (ih h.2)
  | case3 a b cs octet ho ih =>
      rw [Alphabet.spells, Bool.and_eq_true] at h
      exact .escape a b octet cs _ ho (ih h.2)
  | case4 a b cs ho ih =>
      rw [Alphabet.spells, ho] at h
      cases h
  | case5 c cs hplus hpercent ih =>
      have hc : c ≠ '%' := by
        rintro rfl
        rcases cs with - | ⟨a, - | ⟨b, ds⟩⟩
        · simp [Alphabet.spells, Alphabet.contains_percent] at h
        · simp [Alphabet.spells, Alphabet.contains_percent] at h
        · exact hpercent a b ds rfl rfl
      rw [Alphabet.spells_cons_of_ne hc, Bool.and_eq_true] at h
      have hascii := toNat_lt_of_contains h.1
      rw [utf8EncodeChar_of_lt hascii]
      exact .self c cs _ hplus hc hascii (ih h.2)

theorem denotes_iff (h : Alphabet.uri.spells cs = true) : Denotes cs octets ↔ bytes cs = octets := by
  constructor
  · exact bytes_of_denotes
  · rintro rfl
    exact denotes_bytes h

theorem decode?_of_denotes (h : Denotes cs octets) :
    decode? (String.ofList cs) = String.fromUTF8? ⟨octets.toArray⟩ := by
  rw [decode?, String.toList_ofList, bytes_of_denotes h]

end PaymentUri.Escape

namespace PaymentUri

open Checklist

variable {raw other : List Char} {octets : List UInt8} {scheme : String}

/-- A text with a query in which the value of one token is left open. -/
structure Hole where
  scheme : List Char
  path : List Char
  before : List (List Char)
  key : List Char
  after : List (List Char)
  scheme_free : ':' ∉ scheme
  path_free : '?' ∉ path
  key_ne : key ≠ []
  key_free : ∀ c ∈ ['&', '='], c ∉ key
  tokens_free : ∀ t ∈ before ++ after, '&' ∉ t

/-- Legal text that can be the value of a token, and the bytes that it stands for. Separators cannot be
in it: text is split at every question mark, ampersand and equals sign before a value is read, and
text with a second question mark has no query. -/
structure IsValue (raw : List Char) (octets : List UInt8) : Prop where
  legal : Alphabet.uri.Legal raw
  free : ∀ c ∈ ['&', '=', '?'], c ∉ raw
  denotes : Escape.Denotes raw octets

theorem isValue_bytes (h : Alphabet.uri.spells raw = true) (hfree : ∀ c ∈ ['&', '=', '?'], c ∉ raw) :
    IsValue raw (Escape.bytes raw) :=
  ⟨Alphabet.spells_iff_legal.mp h, hfree, (Escape.denotes_iff h).mpr rfl⟩

namespace Hole

def token (hole : Hole) (raw : List Char) : List Char := hole.key ++ '=' :: raw

def tokens (hole : Hole) (raw : List Char) : List (List Char) :=
  hole.before ++ hole.token raw :: hole.after

def query (hole : Hole) (raw : List Char) : List Char := ['&'].intercalate (hole.tokens raw)

def fill (hole : Hole) (raw : List Char) : String :=
  String.ofList (hole.scheme ++ ':' :: (hole.path ++ '?' :: hole.query raw))

variable (hole : Hole)

theorem mem_tokens {t : List Char} :
    t ∈ hole.tokens raw ↔ t ∈ hole.before ++ hole.after ∨ t = hole.token raw := by
  simp [tokens]
  tauto

theorem path_free_dropSlashes : '?' ∉ dropSlashes hole.path := by
  obtain ⟨slashes, -, he⟩ := exists_slashes hole.path
  intro hm
  exact hole.path_free (by rw [he]; exact List.mem_append_right slashes hm)

theorem cut_fill (raw : List Char) :
    Text.cut ':' (hole.fill raw).toList = (hole.scheme, hole.path ++ '?' :: hole.query raw) := by
  rw [fill, String.toList_ofList, Text.cut_append_cons hole.scheme_free]

theorem body_fill (raw : List Char) :
    body (hole.fill raw) = dropSlashes hole.path ++ '?' :: hole.query raw := by
  rw [body, cut_fill, dropSlashes_append_cons (by decide)]

theorem cut_body_fill (raw : List Char) :
    Text.cut '?' (body (hole.fill raw)) = (dropSlashes hole.path, hole.query raw) := by
  rw [body_fill, Text.cut_append_cons hole.path_free_dropSlashes]

def legal : Bool :=
  Alphabet.uri.spells hole.scheme && (Alphabet.uri.spells hole.path &&
    (hole.before.all Alphabet.uri.spells &&
      (Alphabet.uri.spells hole.key && hole.after.all Alphabet.uri.spells)))

theorem spells_fill (h : IsValue raw octets) : Alphabet.uri.spells (hole.fill raw).toList = hole.legal := by
  have hraw : Alphabet.uri.spells raw = true := Alphabet.spells_iff_legal.mpr h.legal
  rw [fill, String.toList_ofList, Alphabet.spells_append_cons (by decide) (by decide),
    Alphabet.spells_append_cons (by decide) (by decide), query,
    Alphabet.spells_intercalate (by decide) (by decide), tokens, List.all_append, List.all_cons, token,
    Alphabet.spells_append_cons (by decide) (by decide), hraw, Bool.and_true, legal]

theorem mem_query_iff (h : IsValue raw octets) :
    '?' ∈ hole.query raw ↔ (∃ t ∈ hole.before ++ hole.after, '?' ∈ t) ∨ '?' ∈ hole.key := by
  have hraw : '?' ∉ raw := h.free '?' (by decide)
  rw [query, Text.mem_intercalate_iff (by decide)]
  simp only [mem_tokens, or_and_right, exists_or, exists_eq_left, token, List.mem_append, List.mem_cons]
  simp [hraw]

theorem two_le_count_iff (h : IsValue raw octets) :
    2 ≤ (body (hole.fill raw)).count '?' ↔
      (∃ t ∈ hole.before ++ hole.after, '?' ∈ t) ∨ '?' ∈ hole.key := by
  rw [← hole.mem_query_iff h, ← List.count_pos_iff, body_fill, List.count_append, List.count_cons_self,
    List.count_eq_zero_of_not_mem hole.path_free_dropSlashes]
  omega

def readAddress (scheme : String) : Except Rejection String :=
  if ¬hole.legal then .error .illegalCharacter
  else if String.ofList hole.scheme ≠ scheme then .error (.wrongScheme scheme)
  else if (∃ t ∈ hole.before ++ hole.after, '?' ∈ t) ∨ '?' ∈ hole.key then .error .tooManyQuestionMarks
  else if dropSlashes hole.path = [] then .error .emptyAddress
  else if '/' ∈ dropSlashes hole.path then .error .illegalAddress
  else .ok (String.ofList (dropSlashes hole.path))

theorem read_fill (h : IsValue raw octets) :
    Draft.read scheme (hole.fill raw) = (hole.readAddress scheme).map (⟨·, hole.query raw⟩) := by
  have hcolon : ':' ∈ (hole.fill raw).toList := by simp [fill]
  rw [read_eq]
  simp only [hole.two_le_count_iff h, address, Checklist.query, hole.cut_body_fill, hcolon, not_true,
    false_and, if_false, ← Alphabet.spells_iff_legal, hole.spells_fill h, hole.cut_fill]
  rw [readAddress]
  split_ifs <;> rfl

theorem tokens_query (h : IsValue raw octets) : Checklist.tokens (hole.query raw) = hole.tokens raw := by
  have hmem : hole.token raw ∈ hole.tokens raw := hole.mem_tokens.mpr (.inr rfl)
  have hfree : ∀ t ∈ hole.tokens raw, '&' ∉ t := by
    intro t ht
    rcases hole.mem_tokens.mp ht with ht | rfl
    · exact hole.tokens_free t ht
    · simp [token, hole.key_free '&' (by decide), h.free '&' (by decide)]
  have hne : hole.query raw ≠ [] := by
    have hm : '=' ∈ hole.query raw := by
      rw [query, Text.mem_intercalate_iff (by decide)]
      exact ⟨_, hmem, by simp [token]⟩
    exact List.ne_nil_of_mem hm
  rw [Checklist.tokens, if_neg hne]
  exact Text.split_eq_iff.mpr ⟨List.ne_nil_of_mem hmem, hfree, rfl⟩

theorem readPair_token (h : IsValue raw octets) :
    readPair (hole.token raw) =
      match String.fromUTF8? ⟨octets.toArray⟩ with
      | some value => .ok (String.ofList hole.key, value)
      | none => .error (.notText (String.ofList hole.key)) := by
  have hvalue := Escape.decode?_of_denotes h.denotes
  rw [readPair, token, Text.split_append_cons (hole.key_free '=' (by decide)),
    Text.split_of_not_mem (h.free '=' (by decide))]
  cases hv : String.fromUTF8? ⟨octets.toArray⟩ <;> simp [hole.key_ne, hvalue, hv]

theorem readPairs_query (hraw : IsValue raw octets) (hother : IsValue other octets) :
    readPairs (hole.query other) = readPairs (hole.query raw) := by
  rw [readPairs_eq, readPairs_eq, hole.tokens_query hraw, hole.tokens_query hother, tokens, tokens]
  simp only [List.mapM_append, List.mapM_cons, hole.readPair_token hraw, hole.readPair_token hother]

theorem readUri_fill (resolve : Resolver) (network : Network) (hraw : IsValue raw octets)
    (hother : IsValue other octets) :
    readUri resolve network (hole.fill other) = readUri resolve network (hole.fill raw) := by
  rw [readUri, readUri, hole.read_fill hraw, hole.read_fill hother]
  cases hole.readAddress network.scheme with
  | error fault => rfl
  | ok address =>
      simp only [Except.map, Report.ofExcept_ok_bind]
      rw [hole.readPairs_query hraw hother]

end Hole

/-- However the value of a token is spelled, a text is read as the same request or rejected for the
same reason, and the same is reported on the way. -/
theorem parseUri_fill_eq (network : Network) (resolve : Resolver) (hole : Hole) (raw other : List Char)
    (octets : List UInt8) (hraw : IsValue raw octets) (hother : IsValue other octets) :
    parseUri network (hole.fill other) resolve = parseUri network (hole.fill raw) resolve := by
  rw [parseUri, parseUri, hole.readUri_fill resolve network hraw hother]

theorem parseUri_fill_eq_sample :
    parseUri .mainnet "digibyte:DCxTHiSxiSxTHExSTUFFzzzzzzzzbSG1oo?x=1&label=a+b/%e2%82%ac" =
        parseUri .mainnet "digibyte:DCxTHiSxiSxTHExSTUFFzzzzzzzzbSG1oo?x=1&label=%61%20b%2F%E2%82%AC" ∧
      ((parseUri .mainnet
        "digibyte:DCxTHiSxiSxTHExSTUFFzzzzzzzzbSG1oo?x=1&label=a+b/%e2%82%ac").outcome.toOption.bind
          PaymentRequest.label) = some "a b/€" := by
  let hole : Hole := {
    scheme := "digibyte".toList
    path := "DCxTHiSxiSxTHExSTUFFzzzzzzzzbSG1oo".toList
    before := ["x=1".toList]
    key := "label".toList
    after := []
    scheme_free := by decide
    path_free := by decide
    key_ne := by decide
    key_free := by simp
    tokens_free := by decide }
  have hraw : IsValue "%61%20b%2F%E2%82%AC".toList [0x61, 0x20, 0x62, 0x2f, 0xe2, 0x82, 0xac] :=
    isValue_bytes (by decide) (by simp)
  have hother : IsValue "a+b/%e2%82%ac".toList [0x61, 0x20, 0x62, 0x2f, 0xe2, 0x82, 0xac] :=
    isValue_bytes (by decide) (by simp)
  have hread : ∀ text text', hole.fill "%61%20b%2F%E2%82%AC".toList = text →
      hole.fill "a+b/%e2%82%ac".toList = text' → parseUri .mainnet text' = parseUri .mainnet text := by
    rintro _ _ rfl rfl
    exact parseUri_fill_eq .mainnet offline hole _ _ _ hraw hother
  exact ⟨hread _ _ (by decide +kernel) (by decide +kernel), by decide +kernel⟩

end PaymentUri
