import PaymentUri.Proofs.Amount
import PaymentUri.Proofs.FirstEntries

namespace PaymentUri

variable {payee : Payee} {e p : String × String} {es fs done : List (String × String)} {k v : String}

def unitsOf (value : String) : Int :=
  match Amount.parse value with
  | .ok units => units
  | .error _ => 0

def fieldOf (p : String × String) : Field :=
  if p.1 = "amount" then .amount (unitsOf p.2)
  else if p.1 = "label" then .label p.2
  else if p.1 = "message" then .message p.2
  else .extra p.1 p.2

def isReserved (e : String × String) : Bool := e.1 ∈ reservedKeys

/-- The request that pairs make: of every key the first value counts. -/
def PaymentRequest.ofPairs (payee : Payee) (pairs : List (String × String)) : PaymentRequest where
  payee
  amount := (pairs.lookup "amount").map unitsOf
  label := pairs.lookup "label"
  message := pairs.lookup "message"
  extras := firsts (pairs.filter fun e => !isReserved e)

theorem lookup_concat (h : e.1 ≠ k ∨ k ∈ done.map Prod.fst) :
    (done ++ [e]).lookup k = done.lookup k := by
  rw [List.lookup_append]
  rcases h with h | h
  · have hb : (k == e.1) = false := beq_false_of_ne h.symm
    obtain ⟨l, v⟩ := e
    simp [List.lookup_cons, hb]
  · obtain ⟨v, hv⟩ := Option.isSome_iff_exists.mp (mem_keys_iff.mp h)
    rw [hv]
    rfl

theorem lookup_concat_self (h : e.1 ∉ done.map Prod.fst) :
    (done ++ [e]).lookup e.1 = some e.2 := by
  have hnone : done.lookup e.1 = none := by
    apply lookup_eq_none
    intro f hf hk
    exact h (hk ▸ List.mem_map_of_mem hf)
  rw [List.lookup_append, hnone, Option.none_or]
  exact List.lookup_cons_self

theorem filter_reserved_concat (h : isReserved e = true) :
    (done ++ [e]).filter (fun e => !isReserved e) = done.filter fun e => !isReserved e := by
  simp [h]

theorem mem_keys_filter (h : isReserved e = false) :
    e.1 ∈ (done.filter fun e => !isReserved e).map Prod.fst ↔ e.1 ∈ done.map Prod.fst := by
  constructor
  · intro hm
    obtain ⟨f, hf, he⟩ := List.mem_map.mp hm
    exact List.mem_map.mpr ⟨f, (List.mem_filter.mp hf).1, he⟩
  · intro hm
    obtain ⟨f, hf, he⟩ := List.mem_map.mp hm
    have hr : isReserved f = isReserved e := by rw [isReserved, he, isReserved]
    exact List.mem_map.mpr ⟨f, List.mem_filter.mpr ⟨hf, by rw [hr, h]; rfl⟩, he⟩

theorem isReserved_eq_false_iff :
    isReserved e = false ↔ e.1 ≠ "address" ∧ e.1 ≠ "amount" ∧ e.1 ≠ "label" ∧ e.1 ≠ "message" := by
  simp [isReserved, reservedKeys]

theorem lookup_reserved_eq_none (h : ∀ e ∈ es, isReserved e = false) (hk : k ∈ reservedKeys) :
    es.lookup k = none := by
  apply lookup_eq_none
  rintro e he rfl
  exact of_decide_eq_false (h e he) hk

theorem filter_reserved_append (hfixed : ∀ e ∈ fs, e.1 ∈ reservedKeys)
    (hextra : ∀ e ∈ es, isReserved e = false) : ((fs ++ es).filter fun e => !isReserved e) = es := by
  have hnone : (fs.filter fun e => !isReserved e) = [] := by
    rw [List.filter_eq_nil_iff]
    intro e he
    rw [isReserved, decide_eq_true (hfixed e he)]
    decide
  rw [List.filter_append, hnone, List.nil_append, List.filter_eq_self]
  intro e he
  rw [hextra e he]
  rfl

structure Writable (e : String × String) : Prop where
  unreserved : isReserved e = false
  spelled : isQueryKey e.1 = true
  optional : isRequiredKey e.1 = false

namespace PaymentRequest

theorem ofPairs_concat_of_mem (h : p.1 ∈ done.map Prod.fst) :
    ofPairs payee (done ++ [p]) = ofPairs payee done := by
  have hl : ∀ k, (done ++ [p]).lookup k = done.lookup k := by
    intro k
    by_cases hk : p.1 = k
    · exact lookup_concat (.inr (hk ▸ h))
    · exact lookup_concat (.inl hk)
  have hx : firsts ((done ++ [p]).filter fun e => !isReserved e) =
      firsts (done.filter fun e => !isReserved e) := by
    cases hr : isReserved p with
    | true => rw [filter_reserved_concat hr]
    | false =>
        rw [List.filter_append, List.filter_cons_of_pos (by rw [hr]; rfl), List.filter_nil,
          firsts_concat, if_pos ((mem_keys_filter hr).mpr h)]
  rw [ofPairs, hl, hl, hl, hx, ofPairs]

theorem ofPairs_concat (h : p.1 ∉ done.map Prod.fst) (ha : p.1 ≠ "address") :
    ofPairs payee (done ++ [p]) = (ofPairs payee done).set (fieldOf p) := by
  obtain ⟨key, value⟩ := p
  have hself := lookup_concat_self h
  have hother : ∀ k, key ≠ k → (done ++ [(key, value)]).lookup k = done.lookup k :=
    fun k hk => lookup_concat (.inl hk)
  by_cases hr : isReserved (key, value) = true
  · have hk : key ∈ reservedKeys := of_decide_eq_true hr
    have hx : (done ++ [(key, value)]).filter (fun e => !isReserved e) =
        done.filter fun e => !isReserved e := filter_reserved_concat hr
    simp only [reservedKeys, List.mem_cons, List.not_mem_nil, or_false] at hk
    rcases hk with hk | rfl | rfl | rfl
    · exact absurd hk ha
    all_goals
      simp (disch := decide) only [ofPairs, hself, hother, hx]
      rfl
  · rw [Bool.not_eq_true] at hr
    obtain ⟨-, hamount, hlabel, hmessage⟩ := isReserved_eq_false_iff.mp hr
    rw [ofPairs, hother _ hamount, hother _ hlabel, hother _ hmessage, List.filter_append,
      List.filter_cons_of_pos (by rw [hr]; rfl), List.filter_nil, firsts_concat,
      if_neg (mt (mem_keys_filter hr).mp h), fieldOf, if_neg hamount, if_neg hlabel, if_neg hmessage]
    rfl

/-- What holds of every request that was read, whoever is paid. -/
structure Canonical (r : PaymentRequest) : Prop where
  amount : ∀ n, r.amount = some n → 0 ≤ n ∧ n.natAbs < 10 ^ Amount.maxUnitDigits
  label : r.label ≠ some ""
  message : r.message ≠ some ""
  nodup : (r.extras.map Prod.fst).Nodup
  writable : ∀ e ∈ r.extras, Writable e

end PaymentRequest

theorem setEntry_of_not_mem (h : k ∉ es.map Prod.fst) : setEntry k v es = es ++ [(k, v)] := by
  induction es with
  | nil => rfl
  | cons e es ih =>
      rw [List.map_cons, List.mem_cons, not_or] at h
      rw [setEntry, if_neg (Ne.symm h.1), ih h.2]
      rfl

theorem ofEntries_of_nodup (h : (es.map Prod.fst).Nodup) : ofEntries es = es := by
  induction es using List.reverseRecOn with
  | nil => rfl
  | append_singleton es e ih =>
      rw [List.map_append, List.nodup_append] at h
      obtain ⟨hes, -, hdisjoint⟩ := h
      have he : e.1 ∉ es.map Prod.fst :=
        fun hm => hdisjoint e.1 hm e.1 (List.mem_singleton.mpr rfl) rfl
      rw [ofEntries, List.foldl_append, ← ofEntries, ih hes]
      exact setEntry_of_not_mem he

theorem nonempty_eq_self {text : Option String} (h : text ≠ some "") : nonempty text = text := by
  cases text with
  | none => rfl
  | some s =>
      have hs : s ≠ "" := fun hs => h (congrArg some hs)
      simp [nonempty, hs]

theorem nonempty_ne (text : Option String) : nonempty text ≠ some "" := by
  intro h
  rw [nonempty, Option.filter_eq_some_iff] at h
  simp at h

theorem any_negative_iff {amount : Option Int} :
    amount.any (· < 0) = true ↔ ∃ n, amount = some n ∧ n < 0 := by
  cases amount <;> simp

theorem any_negative_eq_false {amount : Option Int} (h : ∀ n, amount = some n → 0 ≤ n) :
    amount.any (· < 0) = false := by
  rw [← Bool.not_eq_true, any_negative_iff]
  rintro ⟨n, hn, hnegative⟩
  exact absurd (h n hn) (Int.not_le.mpr hnegative)

namespace PaymentRequest

variable {whom? : Option Payee} {amount : Option Int} {label message : Option String} {r : PaymentRequest}

theorem make_eq_ok_iff :
    make whom? amount label message es = .ok r ↔
      ∃ whom, whom? = some whom ∧ amount.any (· < 0) = false ∧ es.lookup "address" = none ∧
        r = ⟨whom, amount, nonempty label, nonempty message, ofEntries es⟩ := by
  cases whom? with
  | none => simp [make]
  | some whom =>
      rw [make]
      constructor
      · intro h
        split at h
        next => cases h
        next hpos =>
          split at h
          next => cases h
          next haddress =>
            cases h
            exact ⟨whom, rfl, Bool.eq_false_of_not_eq_true hpos, Option.not_isSome_iff_eq_none.mp haddress, rfl⟩
      · rintro ⟨other, hother, hpos, haddress, rfl⟩
        cases hother
        rw [hpos, haddress]
        rfl

/-- What a request promises to everyone who uses it. -/
structure Sound (r : PaymentRequest) : Prop where
  amount : ∀ n, r.amount = some n → 0 ≤ n
  label : r.label ≠ some ""
  message : r.message ≠ some ""
  extras : "address" ∉ r.extras.map Prod.fst
  distinct : (r.extras.map Prod.fst).Nodup

theorem make_of_sound (h : r.Sound) : make (some r.payee) r.amount r.label r.message r.extras = .ok r := by
  have haddress : r.extras.lookup "address" = none := by
    rw [← Option.not_isSome_iff_eq_none, ← mem_keys_iff]
    exact h.extras
  refine make_eq_ok_iff.mpr ⟨r.payee, rfl, any_negative_eq_false h.amount, haddress, ?_⟩
  rw [nonempty_eq_self h.label, nonempty_eq_self h.message, ofEntries_of_nodup h.distinct]

theorem Canonical.sound (h : r.Canonical) : r.Sound where
  amount n hn := (h.amount n hn).1
  label := h.label
  message := h.message
  extras hm := by
    obtain ⟨e, he, hkey⟩ := List.mem_map.mp hm
    exact (isReserved_eq_false_iff.mp (h.writable e he).unreserved).1 hkey
  distinct := h.nodup

theorem make_of_canonical (h : r.Canonical) : make (some r.payee) r.amount r.label r.message r.extras = .ok r :=
  make_of_sound h.sound

end PaymentRequest

end PaymentUri
