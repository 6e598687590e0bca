import PaymentUri.Proofs.Alphabet
import PaymentUri.Proofs.Check

namespace PaymentUri.Checklist

open Check (Obeys first?)

def body (text : String) : List Char := dropSlashes (Text.cut ':' text.toList).2

def address (text : String) : List Char := (Text.cut '?' (body text)).1

def query (text : String) : List Char := (Text.cut '?' (body text)).2

def tokens (query : List Char) : List (List Char) :=
  if query = [] then [] else Text.split '&' query

def key (token : List Char) : String := String.ofList (Text.cut '=' token).1

def value? (token : List Char) : Option String :=
  Escape.decode? (String.ofList (Text.cut '=' token).2)

def pair (token : List Char) : String × String := (key token, (value? token).getD "")

def pairs (text : String) : List (String × String) := (tokens (query text)).map pair

def payee (resolve : Resolver) (network : Network) (text : String) : Payee :=
  match (resolve network (String.ofList (address text))).outcome with
  | .ok payee => payee
  | .error _ => .text ""

def isAmount (value : String) : Bool :=
  match Amount.parse value with
  | .ok units => 0 ≤ units
  | .error _ => false

def textChecks (scheme text : String) : List Check :=
  [⟨¬Alphabet.uri.Legal text.toList, .badSyntax, none⟩,
    ⟨':' ∉ text.toList ∧ text = scheme, .missingAddress, none⟩,
    ⟨String.ofList (Text.cut ':' text.toList).1 ≠ scheme, .schemeMismatch, none⟩,
    ⟨2 ≤ (body text).count '?', .tooManyQuestionMarks, none⟩,
    ⟨address text = [], .missingAddress, some "address"⟩,
    ⟨'/' ∈ address text, .badSyntax, some "address"⟩]

def resolverCheck (resolve : Resolver) (network : Network) (text : String) : Check :=
  ⟨!(resolve network (String.ofList (address text))).outcome.isOk, .badAddress, some "address"⟩

def tokenChecks (token : List Char) : List Check :=
  [⟨token.count '=' ≠ 1 ∨ key token = "", .malformedPair, none⟩,
    ⟨value? token = none, .badSyntax, some (key token)⟩]

def pairChecks (p : String × String) : List Check :=
  [⟨p.1 = "address", .duplicateAddressField, some "address"⟩,
    ⟨p.1 = "amount" ∧ ¬isAmount p.2, .invalidAmount, some "amount"⟩,
    ⟨(p.1 = "label" ∨ p.1 = "message") ∧ p.2 = "", .emptyFieldValue, some p.1⟩,
    ⟨requiredMark.toList <+: p.1.toList, .unrecognizedRequiredField, some p.1⟩]

/-- All checks of a URI: of the text, of the address, of every token of the query, and only then of
what each pair says. -/
def uriChecks (resolve : Resolver) (network : Network) (text : String) : List Check :=
  textChecks network.scheme text ++ [resolverCheck resolve network text] ++
    (tokens (query text)).flatMap tokenChecks ++ (pairs text).flatMap pairChecks

variable {scheme text : String} {cs : List Char}

theorem spells_dropSlashes (h : Alphabet.uri.spells cs = true) :
    Alphabet.uri.spells (dropSlashes cs) = true := by
  rw [dropSlashes.eq_def]
  split
  next cs =>
    rw [Alphabet.spells_cons_of_ne (by decide), Bool.and_eq_true] at h
    rw [Alphabet.spells_cons_of_ne (by decide), Bool.and_eq_true] at h
    exact h.2.2
  next => exact h

theorem dropSlashes_eq_self (h : ¬['/', '/'] <+: cs) : dropSlashes cs = cs := by
  rw [dropSlashes.eq_def]
  split
  next cs => exact absurd ⟨cs, rfl⟩ h
  next => rfl

theorem dropSlashes_append_cons {c : Char} (hc : c ≠ '/') (xs ys : List Char) :
    dropSlashes (xs ++ c :: ys) = dropSlashes xs ++ c :: ys := by
  by_cases h : ['/', '/'] <+: xs
  · obtain ⟨zs, rfl⟩ := h
    rfl
  · have h' : ¬['/', '/'] <+: xs ++ c :: ys := by
      match xs with
      | [] | [x] => simp [Ne.symm hc]
      | x :: y :: zs => simpa using h
    rw [dropSlashes_eq_self h, dropSlashes_eq_self h']

theorem spells_body (h : isUriText text = true) : Alphabet.uri.spells (body text) = true :=
  spells_dropSlashes (Alphabet.spells_cut (by decide) (by decide) h).2

theorem spells_address (h : isUriText text = true) : Alphabet.uri.spells (address text) = true :=
  (Alphabet.spells_cut (by decide) (by decide) (spells_body h)).1

theorem spells_query (h : isUriText text = true) : Alphabet.uri.spells (query text) = true :=
  (Alphabet.spells_cut (by decide) (by decide) (spells_body h)).2

/-- On a legal text only a slash can spoil the address. -/
theorem segment_address_iff (h : isUriText text = true) :
    Alphabet.segment.spells (address text) = true ↔ '/' ∉ address text := by
  rw [Alphabet.segment_spells_iff (spells_address h)]
  constructor
  · intro hc
    exact hc '/' (by decide)
  · intro hs c hc
    rcases List.mem_cons.mp hc with rfl | hc
    · exact hs
    · rw [List.mem_singleton.mp hc]
      exact Text.not_mem_cut_fst '?' (body text)

theorem afterScheme_eq (scheme text : String) :
    afterScheme scheme text =
      if ':' ∉ text.toList ∧ text = scheme then .error .noColon
      else if String.ofList (Text.cut ':' text.toList).1 ≠ scheme then .error (.wrongScheme scheme)
      else .ok (Text.cut ':' text.toList).2 := by
  by_cases hc : ':' ∈ text.toList
  · obtain ⟨before, rest, hfree, he, hcut⟩ := Text.exists_append_of_mem hc
    rw [if_neg (fun h => h.1 hc), hcut, afterScheme, he, Text.cut?_append_cons hfree]
    by_cases hs : String.ofList before = scheme
    · simp [hs]
    · simp [hs]
  · rw [Text.cut_of_not_mem hc, String.ofList_toList, afterScheme, Text.cut?_eq_none_iff.mpr hc]
    by_cases hs : text = scheme
    · subst hs
      simp [hc]
    · simp [hs]

theorem read_address_eq (h : isUriText text = true) :
    (if address text = [] then .error .emptyAddress
      else if Alphabet.segment.spells (address text) then
        .ok ⟨String.ofList (address text), query text⟩
      else .error .illegalAddress : Except Rejection Draft) =
      if address text = [] then .error .emptyAddress
      else if '/' ∈ address text then .error .illegalAddress
      else .ok ⟨String.ofList (address text), query text⟩ := by
  by_cases hs : '/' ∈ address text
  · rw [if_neg (mt (segment_address_iff h).mp (not_not.mpr hs)), if_pos hs]
  · rw [if_pos ((segment_address_iff h).mpr hs), if_neg hs]

theorem read_eq (scheme text : String) :
    Draft.read scheme text =
      if ¬Alphabet.uri.Legal text.toList then .error .illegalCharacter
      else if ':' ∉ text.toList ∧ text = scheme then .error .noColon
      else if String.ofList (Text.cut ':' text.toList).1 ≠ scheme then .error (.wrongScheme scheme)
      else if 2 ≤ (body text).count '?' then .error .tooManyQuestionMarks
      else if address text = [] then .error .emptyAddress
      else if '/' ∈ address text then .error .illegalAddress
      else .ok ⟨String.ofList (address text), query text⟩ := by
  by_cases hu : isUriText text = true
  · rw [if_neg (not_not.mpr (Alphabet.spells_iff_legal.mp hu)), Draft.read, if_pos hu, afterScheme_eq,
      ← read_address_eq hu]
    split
    next => rfl
    split
    next => rfl
    dsimp only [bind, Except.bind]
    have hbody : body text = dropSlashes (Text.cut ':' text.toList).2 := rfl
    obtain h | h | h : (body text).count '?' = 0 ∨ (body text).count '?' = 1 ∨
        2 ≤ (body text).count '?' := by omega
    · have hfree : '?' ∉ body text := List.count_eq_zero.mp h
      have hs : Text.split '?' (body text) = [address text] := by
        rw [address, Text.cut_of_not_mem hfree, Text.split_of_not_mem hfree]
      have hq : query text = [] := by rw [query, Text.cut_of_not_mem hfree]
      rw [← hbody, hs, hq, if_neg (by omega)]
      rfl
    · have hs : Text.split '?' (body text) = [address text, query text] :=
        Text.split_of_count_eq_one h
      rw [← hbody, hs, if_neg (by omega)]
      rfl
    · obtain ⟨p, q, r, rest, hs⟩ := Text.exists_split_of_two_le h
      rw [← hbody, hs, if_pos h]
      rfl
  · rw [Draft.read, if_neg hu, if_pos (mt Alphabet.spells_iff_legal.mpr hu)]
    rfl

theorem read_obeys (scheme text : String) :
    Obeys (textChecks scheme text) ⟨String.ofList (address text), query text⟩
      (Draft.read scheme text) := by
  rw [read_eq, textChecks]
  iterate 6 refine .guard rfl rfl fun _ => ?_
  exact .pure _

end PaymentUri.Checklist
