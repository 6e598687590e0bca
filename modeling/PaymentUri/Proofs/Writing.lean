import PaymentUri.Proofs.Address
import PaymentUri.Proofs.Amount
import PaymentUri.Proofs.Escape
import PaymentUri.Proofs.Grammar

namespace PaymentUri

variable {whom : Payee} {amount : Option Int} {label message : Option String} {key value u : String}
  {e : String × String} {es : List (String × String)} {ts : List String}

def parameterText (e : String × String) : String := e.1 ++ "=" ++ Escape.encode e.2

def fixedEntries (amount : Option Int) (label message : Option String) : List (String × String) :=
  (amount.map fun n => ("amount", Amount.plain n)).toList ++
    ((nonempty label).map fun s => ("label", s)).toList ++
    ((nonempty message).map fun s => ("message", s)).toList

theorem fixedParameters_eq (amount : Option Int) (label message : Option String) :
    fixedParameters amount label message = (fixedEntries amount label message).map parameterText := by
  have hplain : ∀ n, Escape.encode (Amount.plain n) = Amount.plain n :=
    fun n => Escape.encode_of_isUnreserved fun _ => Amount.isUnreserved_of_mem_plain
  rw [fixedParameters, fixedEntries, List.map_append, List.map_append]
  cases amount <;> cases nonempty label <;> cases nonempty message <;>
    simp [parameterText, hplain]

theorem extraParameter_eq_ok_iff {t : String} :
    extraParameter key value = .ok t ↔ Writable (key, value) ∧ t = parameterText (key, value) := by
  rw [extraParameter]
  constructor
  · intro h
    split at h
    next => cases h
    next hreserved =>
      split at h
      next => cases h
      next hspelled =>
        split at h
        next => cases h
        next hrequired =>
          cases h
          exact ⟨⟨decide_eq_false hreserved, by simpa using hspelled, by simpa using hrequired⟩, rfl⟩
  · rintro ⟨h, rfl⟩
    have hreserved : key ∉ reservedKeys := of_decide_eq_false h.unreserved
    rw [if_neg hreserved, if_neg (not_not.mpr h.spelled), if_neg (by rw [h.optional]; decide)]
    rfl

theorem extraParameters_eq_ok_iff :
    extraParameters es = .ok ts ↔ (∀ e ∈ es, Writable e) ∧ ts = es.map parameterText := by
  induction es generalizing ts with
  | nil => simp [extraParameters, eq_comm]
  | cons e es ih =>
      obtain ⟨key, value⟩ := e
      rw [extraParameters, List.forall_mem_cons, bind_eq_ok_iff]
      simp only [bind_eq_ok_iff, extraParameter_eq_ok_iff, ih]
      constructor
      · rintro ⟨_, ⟨hw, rfl⟩, _, ⟨hes, rfl⟩, h⟩
        cases h
        exact ⟨⟨hw, hes⟩, rfl⟩
      · rintro ⟨⟨hw, hes⟩, rfl⟩
        exact ⟨_, ⟨hw, rfl⟩, _, ⟨hes, rfl⟩, rfl⟩

def uriText (whom : Payee) (es : List (String × String)) : String :=
  let base := whom.scheme ++ ":" ++ whom.display
  if es = [] then base else base ++ "?" ++ "&".intercalate (es.map parameterText)

theorem uriText_fixedEntries_append (whom : Payee) (amount : Option Int)
    (label message : Option String) (es : List (String × String)) :
    uriText whom (fixedEntries amount label message ++ es) =
      let parameters := fixedParameters amount label message ++ es.map parameterText
      let base := whom.scheme ++ ":" ++ whom.display
      if parameters = [] then base else base ++ "?" ++ "&".intercalate parameters := by
  rw [fixedParameters_eq, ← List.map_append, uriText]
  simp only [List.map_eq_nil_iff]

theorem buildUri_eq_ok_iff :
    buildUri whom amount label message none es = .ok u ↔
      amount.any (· < 0) = false ∧ (∀ e ∈ es, Writable e) ∧
        u = uriText whom (fixedEntries amount label message ++ es) := by
  rw [buildUri, uriText_fixedEntries_append]
  split
  next hneg =>
    constructor
    · intro h
      cases h
    · rintro ⟨hpos, -⟩
      rw [hpos] at hneg
      cases hneg
  next hpos =>
    simp only [bind_eq_ok_iff, extraParameters_eq_ok_iff]
    constructor
    · rintro ⟨_, ⟨hes, rfl⟩, h⟩
      cases h
      exact ⟨Bool.eq_false_of_not_eq_true hpos, hes, rfl⟩
    · rintro ⟨-, hes, rfl⟩
      exact ⟨_, ⟨hes, rfl⟩, rfl⟩

theorem extraParameters_error {fault : BuildError} (h : extraParameters es = .error fault) :
    ∃ e ∈ es, extraParameter e.1 e.2 = .error fault := by
  induction es with
  | nil => cases h
  | cons e es ih =>
      obtain ⟨key, value⟩ := e
      rw [extraParameters, bind_eq_error_iff] at h
      rcases h with h | ⟨_, -, h⟩
      · exact ⟨(key, value), List.mem_cons_self, h⟩
      · rcases bind_eq_error_iff.mp h with h | ⟨_, -, h⟩
        · obtain ⟨d, hd, hfault⟩ := ih h
          exact ⟨d, List.mem_cons_of_mem _ hd, hfault⟩
        · cases h

theorem buildUri_error {scheme : Option String} {fault : BuildError}
    (h : buildUri whom amount label message scheme es = .error fault) :
    (amount.any (· < 0) = true ∧ fault = .negativeAmount) ∨
      ∃ e ∈ es, extraParameter e.1 e.2 = .error fault := by
  rw [buildUri] at h
  split at h
  next hneg =>
    cases h
    exact .inl ⟨hneg, rfl⟩
  next =>
    rcases bind_eq_error_iff.mp h with h | ⟨_, -, h⟩
    · exact .inr (extraParameters_error h)
    · cases h

def Pair.ofEntry (e : String × String) : Pair := ⟨e.1, Escape.encode e.2, e.2⟩

theorem toList_parameterText (e : String × String) : (parameterText e).toList = (Pair.ofEntry e).text := by
  rw [parameterText, String.toList_append, String.toList_append, List.append_assoc]
  rfl

def queryText (ps : List Pair) : List Char :=
  if ps = [] then [] else '?' :: ['&'].intercalate (ps.map Pair.text)

theorem isQuery_queryText (ps : List Pair) : IsQuery (queryText ps) ps := by
  rw [queryText]
  split
  next h =>
    subst h
    exact .absent
  next h => exact .pairs ps h

theorem IsQuery.eq_queryText {query : List Char} {ps : List Pair} (h : IsQuery query ps)
    (hne : '?' ∈ query → ps ≠ []) : query = queryText ps := by
  cases h with
  | absent => rfl
  | empty => exact absurd rfl (hne List.mem_cons_self)
  | pairs ps hps => rw [queryText, if_neg hps]

theorem toList_uriText (whom : Payee) (es : List (String × String)) :
    (uriText whom es).toList =
      whom.scheme.toList ++ ':' :: (whom.display.toList ++ queryText (es.map Pair.ofEntry)) := by
  have hbase : (whom.scheme ++ ":" ++ whom.display).toList =
      whom.scheme.toList ++ ':' :: whom.display.toList := by
    rw [String.toList_append, String.toList_append, List.append_assoc]
    rfl
  rw [uriText, queryText]
  simp only [List.map_eq_nil_iff]
  by_cases hes : es = []
  · rw [if_pos hes, if_pos hes, hbase, List.append_nil]
  · have hparameters : (es.map parameterText).map String.toList = (es.map Pair.ofEntry).map Pair.text := by
      rw [List.map_map, List.map_map]
      apply List.map_congr_left
      intro e he
      exact toList_parameterText e
    rw [if_neg hes, if_neg hes, String.toList_append, String.toList_append, hbase,
      String.toList_intercalate, hparameters, List.append_assoc, List.append_assoc, List.cons_append]
    rfl

theorem Alphabet.spells_of_isUnreserved {alphabet : Alphabet} {text : String}
    (h : ∀ c ∈ text.toList, Escape.isUnreserved c = true) : alphabet.spells text.toList = true := by
  rw [← Escape.encode_of_isUnreserved h]
  exact Escape.spells_encode alphabet text

theorem IsQuery.spells_iff {query : List Char} {ps : List Pair} (h : IsQuery query ps) :
    Alphabet.uri.spells query = true ↔ ∀ p ∈ ps, Alphabet.uri.spells p.text = true := by
  have hmark : Alphabet.uri.contains '?' = true := by decide
  cases h with
  | absent => simp [Alphabet.spells]
  | empty => simp [Alphabet.spells_cons_of_ne, Alphabet.spells, hmark]
  | pairs ps hne =>
      rw [Alphabet.spells_cons_of_ne (by decide), Alphabet.spells_intercalate (by decide) (by decide),
        List.all_map, hmark, Bool.true_and, List.all_eq_true]
      rfl

/-- A text made of a scheme, an address and pairs, whether they are good or not. -/
def IsWritten (scheme text address : String) (ps : List Pair) : Prop :=
  ∃ slashes ∈ [[], ['/', '/']], ∃ query, IsQuery query ps ∧
    text.toList = scheme.toList ++ ':' :: (slashes ++ (address.toList ++ query))

theorem isWritten_uriText (whom : Payee) (es : List (String × String)) :
    IsWritten whom.scheme (uriText whom es) whom.display (es.map Pair.ofEntry) :=
  ⟨[], List.mem_cons_self, _, isQuery_queryText _, toList_uriText whom es⟩

namespace IsWritten

variable {network : Network} {scheme text address : String} {ps : List Pair}

theorem legal_iff (h : IsWritten scheme text address ps)
    (ha : ∀ c ∈ address.toList, Escape.isUnreserved c = true) :
    isUriText text = true ↔
      isUriText scheme = true ∧ ∀ p ∈ ps, Alphabet.uri.spells p.text = true := by
  obtain ⟨slashes, hslashes, query, hquery, htext⟩ := h
  have hall : ∀ slashes ∈ [[], ['/', '/']], Alphabet.uri.spells slashes = true := by decide
  have hs := hall slashes hslashes
  rw [isUriText, htext, Alphabet.spells_append_cons (by decide) (by decide), Alphabet.spells_append hs,
    Alphabet.spells_append (Alphabet.spells_of_isUnreserved ha), Bool.and_eq_true, hquery.spells_iff]
  rfl

theorem isUri (h : IsWritten network.scheme text address ps) (hscheme : isUriText network.scheme = true)
    (hcolon : ':' ∉ network.scheme.toList) (ha : ∃ a, Address.decode network address = .ok a)
    (hlegal : ∀ p ∈ ps, Alphabet.uri.spells p.text = true) (hwell : ∀ p ∈ ps, p.WellFormed)
    (haccepted : ∀ p ∈ ps, p.Accepted) : IsUri network text address ps := by
  have hunreserved := Address.isUnreserved_of_decode ha.choose_spec
  have hfree : ∀ c, Escape.isUnreserved c = false → c ∉ address.toList := by
    intro c hc hm
    rw [hunreserved c hm] at hc
    cases hc
  refine ⟨Alphabet.spells_iff_legal.mp ((h.legal_iff hunreserved).mpr ⟨hscheme, hlegal⟩), hcolon, h, ?_, ha,
    hwell, haccepted⟩
  rw [List.forall_mem_cons, List.forall_mem_singleton]
  exact ⟨hfree '/' (by decide), hfree '?' (by decide)⟩

end IsWritten

namespace Pair

theorem spells_text_ofEntry (h : isQueryKey e.1 = true) :
    Alphabet.uri.spells (ofEntry e).text = true := by
  rw [isQueryKey, Bool.and_eq_true] at h
  rw [text, Alphabet.spells_append_cons (by decide) (by decide), Bool.and_eq_true]
  exact ⟨Alphabet.uri_spells_of_key h.2, Escape.spells_encode _ _⟩

theorem wellFormed_ofEntry (h : isQueryKey e.1 = true) : (ofEntry e).WellFormed := by
  rw [isQueryKey, Bool.and_eq_true, bne_iff_ne] at h
  refine ⟨h.1, (Alphabet.key_spells_iff (Alphabet.uri_spells_of_key h.2)).mp h.2, ?_,
    Escape.decode?_encode e.2⟩
  rw [List.forall_mem_cons, List.forall_mem_cons, List.forall_mem_singleton]
  exact ⟨Escape.not_mem_encode (by decide) (by decide) e.2,
    Escape.not_mem_encode (by decide) (by decide) e.2,
    Escape.not_mem_encode (by decide) (by decide) e.2⟩

end Pair

theorem IsWritten.isUri_ofEntry {network : Network} {text address : String}
    (h : IsWritten network.scheme text address (es.map Pair.ofEntry))
    (hscheme : isUriText network.scheme = true) (hcolon : ':' ∉ network.scheme.toList)
    (ha : ∃ a, Address.decode network address = .ok a) (hkeys : ∀ e ∈ es, isQueryKey e.1 = true)
    (haccepted : ∀ e ∈ es, (Pair.ofEntry e).Accepted) :
    IsUri network text address (es.map Pair.ofEntry) := by
  refine h.isUri hscheme hcolon ha ?_ ?_ ?_
  all_goals
    intro p hp
    obtain ⟨e, he, rfl⟩ := List.mem_map.mp hp
  · exact Pair.spells_text_ofEntry (hkeys e he)
  · exact Pair.wellFormed_ofEntry (hkeys e he)
  · exact haccepted e he

end PaymentUri
