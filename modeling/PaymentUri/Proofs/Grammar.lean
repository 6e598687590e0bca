import PaymentUri.Proofs.Query

namespace PaymentUri

/-- A parameter as it stands in a query: its key, its value as it is written, and the text that the
value stands for. -/
structure Pair where
  key : String
  raw : String
  value : String

namespace Pair

def text (p : Pair) : List Char := p.key.toList ++ '=' :: p.raw.toList

def entry (p : Pair) : String × String := (p.key, p.value)

structure WellFormed (p : Pair) : Prop where
  key_ne : p.key ≠ ""
  key_free : ∀ c ∈ ['&', '=', '?'], c ∉ p.key.toList
  raw_free : ∀ c ∈ ['&', '=', '?'], c ∉ p.raw.toList
  decoded : Escape.decode? p.raw = some p.value

/-- What a pair must say to be accepted, whatever the others say. -/
structure Accepted (p : Pair) : Prop where
  address : p.key ≠ "address"
  required : ¬requiredMark.toList <+: p.key.toList
  amount : p.key = "amount" → ∃ n, Amount.parse p.value = .ok n ∧ 0 ≤ n
  label : p.key = "label" → p.value ≠ ""
  message : p.key = "message" → p.value ≠ ""

end Pair

inductive IsQuery : List Char → List Pair → Prop
  | absent : IsQuery [] []
  | empty : IsQuery ['?'] []
  | pairs (ps : List Pair) (h : ps ≠ []) : IsQuery ('?' :: ['&'].intercalate (ps.map Pair.text)) ps

/-- A text that is a payment URI of a network, with its address and its pairs. -/
structure IsUri (network : Network) (text address : String) (ps : List Pair) : Prop where
  legal : Alphabet.uri.Legal text.toList
  scheme_free : ':' ∉ network.scheme.toList
  written : ∃ slashes ∈ [[], ['/', '/']], ∃ query, IsQuery query ps ∧
    text.toList = network.scheme.toList ++ ':' :: (slashes ++ (address.toList ++ query))
  address_free : ∀ c ∈ ['/', '?'], c ∉ address.toList
  resolves : ∃ a, Address.decode network address = .ok a
  wellFormed : ∀ p ∈ ps, p.WellFormed
  accepted : ∀ p ∈ ps, p.Accepted

namespace Checklist

variable {resolve : Resolver} {network : Network} {scheme text : String} {token : List Char}
  {p : Pair}

theorem uriChecks_passed_iff :
    (∀ c ∈ uriChecks resolve network text, c.fails = false) ↔
      (∀ c ∈ textChecks network.scheme text, c.fails = false) ∧
        (resolverCheck resolve network text).fails = false ∧
        (∀ token ∈ tokens (query text), ∀ c ∈ tokenChecks token, c.fails = false) ∧
        ∀ p ∈ pairs text, ∀ c ∈ pairChecks p, c.fails = false := by
  simp only [uriChecks, List.mem_append, List.mem_singleton, List.mem_flatMap]
  constructor
  · intro h
    exact ⟨fun c hc => h c (.inl (.inl (.inl hc))), h _ (.inl (.inl (.inr rfl))),
      fun token ht c hc => h c (.inl (.inr ⟨token, ht, hc⟩)), fun p hp c hc => h c (.inr ⟨p, hp, hc⟩)⟩
  · rintro ⟨htext, hresolve, htokens, hpairs⟩ c (((hc | rfl) | ⟨token, ht, hc⟩) | ⟨p, hp, hc⟩)
    · exact htext c hc
    · exact hresolve
    · exact htokens token ht c hc
    · exact hpairs p hp c hc

theorem textChecks_passed_iff :
    (∀ c ∈ textChecks scheme text, c.fails = false) ↔
      Alphabet.uri.Legal text.toList ∧ ¬(':' ∉ text.toList ∧ text = scheme) ∧
        String.ofList (Text.cut ':' text.toList).1 = scheme ∧ (body text).count '?' < 2 ∧
        address text ≠ [] ∧ '/' ∉ address text := by
  simp [textChecks]

theorem tokenChecks_passed_iff :
    (∀ c ∈ tokenChecks token, c.fails = false) ↔
      (token.count '=' = 1 ∧ key token ≠ "") ∧ value? token ≠ none := by
  simp [tokenChecks]

theorem isAmount_iff {value : String} :
    isAmount value = true ↔ ∃ n, Amount.parse value = .ok n ∧ 0 ≤ n := by
  rw [isAmount]
  cases Amount.parse value with
  | ok n => simp
  | error cause => simp

theorem pairChecks_passed_iff :
    (∀ c ∈ pairChecks p.entry, c.fails = false) ↔ p.Accepted := by
  constructor
  · intro h
    simp only [pairChecks, List.forall_mem_cons, decide_eq_false_iff_not, not_and, not_not,
      isAmount_iff] at h
    obtain ⟨haddress, hamount, hdisplay, hrequired, -⟩ := h
    exact ⟨haddress, hrequired, hamount, fun hk => hdisplay (.inl hk), fun hk => hdisplay (.inr hk)⟩
  · intro h
    simp only [pairChecks, List.forall_mem_cons, decide_eq_false_iff_not, not_and, not_not,
      isAmount_iff]
    exact ⟨h.address, h.amount, fun hk => hk.elim h.label h.message, h.required, by simp⟩

def pairOf (token : List Char) : Pair :=
  ⟨key token, String.ofList (Text.cut '=' token).2, (value? token).getD ""⟩

theorem exists_slashes (cs : List Char) :
    ∃ slashes ∈ [[], ['/', '/']], cs = slashes ++ dropSlashes cs := by
  rw [dropSlashes.eq_def]
  split
  next cs => exact ⟨['/', '/'], by simp, rfl⟩
  next => exact ⟨[], by simp, rfl⟩

theorem text_pairOf (h : token.count '=' = 1) : (pairOf token).text = token := by
  have hm : '=' ∈ token := List.count_pos_iff.mp (by omega)
  obtain ⟨xs, ys, -, he, hcut⟩ := Text.exists_append_of_mem hm
  rw [Pair.text, pairOf, key, String.toList_ofList, String.toList_ofList, hcut, ← he]

theorem not_mem_query (h : (body text).count '?' < 2) : '?' ∉ query text := by
  by_cases hm : '?' ∈ body text
  · obtain ⟨xs, ys, hfree, he, hcut⟩ := Text.exists_append_of_mem hm
    rw [he, List.count_append, List.count_cons_self, List.count_eq_zero_of_not_mem hfree] at h
    have hy : ys.count '?' = 0 := by omega
    rw [query, hcut]
    exact List.count_eq_zero.mp hy
  · rw [query, Text.cut_of_not_mem hm]
    exact List.not_mem_nil

theorem free_of_mem_tokens {cs : List Char} (hq : '?' ∉ cs) (ht : token ∈ tokens cs) :
    '&' ∉ token ∧ '?' ∉ token := by
  rw [tokens] at ht
  split at ht
  next => exact absurd ht List.not_mem_nil
  next =>
    refine ⟨Text.not_mem_of_mem_split ht, fun hm => hq ?_⟩
    rw [← Text.intercalate_split '&' cs, Text.mem_intercalate_iff (by decide)]
    exact ⟨token, ht, hm⟩

theorem wellFormed_pairOf (hand : '&' ∉ token) (hquestion : '?' ∉ token)
    (h : ∀ c ∈ tokenChecks token, c.fails = false) : (pairOf token).WellFormed := by
  obtain ⟨⟨hcount, hkey⟩, hvalue⟩ := tokenChecks_passed_iff.mp h
  have hm : '=' ∈ token := List.count_pos_iff.mp (by omega)
  obtain ⟨xs, ys, hfree, he, hcut⟩ := Text.exists_append_of_mem hm
  have hys : '=' ∉ ys := by
    rw [he, List.count_append, List.count_cons_self, List.count_eq_zero_of_not_mem hfree] at hcount
    exact List.count_eq_zero.mp (by omega : ys.count '=' = 0)
  rw [he, List.mem_append, List.mem_cons, not_or, not_or] at hand hquestion
  have hk : (pairOf token).key.toList = xs := by rw [pairOf, key, String.toList_ofList, hcut]
  have hr : (pairOf token).raw.toList = ys := by rw [pairOf, String.toList_ofList, hcut]
  refine ⟨hkey, ?_, ?_, ?_⟩
  · rw [hk]
    simp [hfree, hand.1, hquestion.1]
  · rw [hr]
    simp [hys, hand.2.2, hquestion.2.2]
  · obtain ⟨value, hv⟩ := Option.ne_none_iff_exists'.mp hvalue
    rw [pairOf, hv]
    exact hv

theorem map_text_pairOf {ts : List (List Char)}
    (h : ∀ token ∈ ts, ∀ c ∈ tokenChecks token, c.fails = false) :
    (ts.map pairOf).map Pair.text = ts := by
  rw [List.map_map]
  conv_rhs => rw [← List.map_id ts]
  apply List.map_congr_left
  intro token ht
  exact text_pairOf (tokenChecks_passed_iff.mp (h token ht)).1.1

theorem isQuery_tokens
    (h : ∀ token ∈ tokens (query text), ∀ c ∈ tokenChecks token, c.fails = false) :
    ∃ rest, IsQuery rest ((tokens (query text)).map pairOf) ∧ body text = address text ++ rest := by
  by_cases hm : '?' ∈ body text
  · obtain ⟨xs, ys, -, he, hcut⟩ := Text.exists_append_of_mem hm
    refine ⟨'?' :: query text, ?_, by rw [address, query, hcut, he]⟩
    by_cases hq : query text = []
    · rw [hq]
      exact .empty
    · have hne : (tokens (query text)).map pairOf ≠ [] := by
        rw [tokens, if_neg hq]
        exact mt List.map_eq_nil_iff.mp (Text.split_ne_nil '&' (query text))
      have hi : ['&'].intercalate (tokens (query text)) = query text := by
        rw [tokens, if_neg hq, Text.intercalate_split]
      have hpairs := IsQuery.pairs _ hne
      rwa [map_text_pairOf h, hi] at hpairs
  · refine ⟨[], ?_, by rw [address, Text.cut_of_not_mem hm, List.append_nil]⟩
    rw [query, Text.cut_of_not_mem hm]
    exact .absent

theorem isUri_of_passed (h : ∀ c ∈ uriChecks offline network text, c.fails = false) :
    IsUri network text (String.ofList (address text)) ((tokens (query text)).map pairOf) := by
  obtain ⟨htext, hresolve, htokens, hpairs⟩ := uriChecks_passed_iff.mp h
  obtain ⟨hlegal, hcolon, hscheme, hcount, -, hslash⟩ := textChecks_passed_iff.mp htext
  have hm : ':' ∈ text.toList := by
    by_contra hm
    rw [Text.cut_of_not_mem hm, String.ofList_toList] at hscheme
    exact hcolon ⟨hm, hscheme⟩
  obtain ⟨xs, ys, hfree, he, hcut⟩ := Text.exists_append_of_mem hm
  have hx : network.scheme.toList = xs := by rw [← hscheme, hcut, String.toList_ofList]
  obtain ⟨slashes, hslashes, hrest⟩ := exists_slashes ys
  obtain ⟨rest, hquery, hbody⟩ := isQuery_tokens htokens
  refine ⟨hlegal, hx ▸ hfree, ⟨slashes, hslashes, rest, hquery, ?_⟩, ?_, ?_, ?_, ?_⟩
  · rw [String.toList_ofList, ← hbody, he, hx, body, hcut, ← hrest]
  · rw [String.toList_ofList]
    simp only [List.forall_mem_cons]
    exact ⟨hslash, Text.not_mem_cut_fst '?' (body text), by simp⟩
  · rw [resolverCheck] at hresolve
    cases ha : Address.decode network (String.ofList (address text)) with
    | ok a => exact ⟨a, rfl⟩
    | error cause =>
        rw [offline, Report.outcome_ofExcept, ha] at hresolve
        cases hresolve
  · intro p hp
    obtain ⟨token, ht, rfl⟩ := List.mem_map.mp hp
    obtain ⟨hand, hquestion⟩ := free_of_mem_tokens (not_mem_query hcount) ht
    exact wellFormed_pairOf hand hquestion (htokens token ht)
  · intro p hp
    obtain ⟨token, ht, rfl⟩ := List.mem_map.mp hp
    exact pairChecks_passed_iff.mp (hpairs _ (List.mem_map_of_mem ht))

end Checklist

end PaymentUri
