import PaymentUri.Proofs.Accepting
import PaymentUri.Proofs.Canonical
import PaymentUri.Proofs.Writing

namespace PaymentUri

variable {network : Network} {a : Address} {amount : Option Int} {label message : Option String}
  {e : String × String} {r : PaymentRequest}

theorem mem_fixedEntries :
    e ∈ fixedEntries amount label message ↔
      (∃ n, amount = some n ∧ ("amount", Amount.plain n) = e) ∨
        (∃ s, nonempty label = some s ∧ ("label", s) = e) ∨
          ∃ s, nonempty message = some s ∧ ("message", s) = e := by
  simp [fixedEntries]

theorem reserved_of_mem_fixedEntries (he : e ∈ fixedEntries amount label message) :
    e.1 ∈ reservedKeys := by
  rcases mem_fixedEntries.mp he with ⟨n, -, rfl⟩ | ⟨s, -, rfl⟩ | ⟨s, -, rfl⟩
  · exact (by decide : "amount" ∈ reservedKeys)
  · exact (by decide : "label" ∈ reservedKeys)
  · exact (by decide : "message" ∈ reservedKeys)

theorem isQueryKey_of_reserved {key : String} (h : key ∈ reservedKeys) : isQueryKey key = true := by
  revert key
  decide

theorem accepted_of_mem_fixedEntries
    (hamount : ∀ n, amount = some n → 0 ≤ n ∧ n.natAbs < 10 ^ Amount.maxUnitDigits)
    (he : e ∈ fixedEntries amount label message) : (Pair.ofEntry e).Accepted := by
  have hrequired := Checklist.not_required_of_reserved (reserved_of_mem_fixedEntries he)
  rcases mem_fixedEntries.mp he with ⟨n, hn, rfl⟩ | ⟨s, hs, rfl⟩ | ⟨s, hs, rfl⟩
  · have hkey : "amount" ≠ "address" ∧ "amount" ≠ "label" ∧ "amount" ≠ "message" := by decide
    obtain ⟨hpos, hbound⟩ := hamount n hn
    exact ⟨hkey.1, hrequired, fun _ => ⟨n, Amount.parse_plain hbound, hpos⟩,
      fun hk => absurd hk hkey.2.1, fun hk => absurd hk hkey.2.2⟩
  · have hkey : "label" ≠ "address" ∧ "label" ≠ "amount" := by decide
    have hne : s ≠ "" := fun hz => nonempty_ne label (hz ▸ hs)
    exact ⟨hkey.1, hrequired, fun hk => absurd hk hkey.2, fun _ => hne, fun _ => hne⟩
  · have hkey : "message" ≠ "address" ∧ "message" ≠ "amount" := by decide
    have hne : s ≠ "" := fun hz => nonempty_ne message (hz ▸ hs)
    exact ⟨hkey.1, hrequired, fun hk => absurd hk hkey.2, fun _ => hne, fun _ => hne⟩

theorem accepted_of_writable (h : Writable e) : (Pair.ofEntry e).Accepted := by
  obtain ⟨haddress, hamount, hlabel, hmessage⟩ := isReserved_eq_false_iff.mp h.unreserved
  have hrequired : ¬requiredMark.toList <+: e.1.toList := by
    rw [← List.isPrefixOf_iff_prefix, Bool.not_eq_true]
    exact h.optional
  exact ⟨haddress, hrequired, fun hk => absurd hk hamount, fun hk => absurd hk hlabel,
    fun hk => absurd hk hmessage⟩

theorem map_entry_ofEntry (es : List (String × String)) : (es.map Pair.ofEntry).map Pair.entry = es := by
  rw [List.map_map]
  exact List.map_id _

namespace PaymentRequest

def entries (r : PaymentRequest) : List (String × String) :=
  fixedEntries r.amount r.label r.message ++ r.extras

theorem isQueryKey_of_mem_entries (h : r.Canonical) (he : e ∈ r.entries) : isQueryKey e.1 = true := by
  rcases List.mem_append.mp he with he | he
  · exact isQueryKey_of_reserved (reserved_of_mem_fixedEntries he)
  · exact (h.writable e he).spelled

theorem wellFormed_entries (h : r.Canonical) : ∀ p ∈ r.entries.map Pair.ofEntry, p.WellFormed := by
  intro p hp
  obtain ⟨e, he, rfl⟩ := List.mem_map.mp hp
  exact Pair.wellFormed_ofEntry (isQueryKey_of_mem_entries h he)

theorem accepted_of_mem_entries (h : r.Canonical) (he : e ∈ r.entries) :
    (Pair.ofEntry e).Accepted := by
  rcases List.mem_append.mp he with he | he
  · exact accepted_of_mem_fixedEntries h.amount he
  · exact accepted_of_writable (h.writable e he)

theorem lookup_entries_of_reserved (h : r.Canonical) {key : String} (hk : key ∈ reservedKeys) :
    r.entries.lookup key = (fixedEntries r.amount r.label r.message).lookup key := by
  have hnone : r.extras.lookup key = none :=
    lookup_reserved_eq_none (fun e he => (h.writable e he).unreserved) hk
  rw [entries, List.lookup_append, hnone, Option.or_none]

theorem filter_entries (h : r.Canonical) : (r.entries.filter fun e => !isReserved e) = r.extras :=
  filter_reserved_append (fun _ he => reserved_of_mem_fixedEntries he)
    fun e he => (h.writable e he).unreserved

/-- Of the entries that are written for a request, the request itself is made again. -/
theorem ofPairs_entries (h : r.Canonical) : ofPairs r.payee r.entries = r := by
  have hamount : (r.entries.lookup "amount").map unitsOf = r.amount := by
    rw [lookup_entries_of_reserved h (by decide), fixedEntries]
    cases hn : r.amount with
    | none =>
      cases nonempty r.label <;> cases nonempty r.message <;> rfl
    | some n =>
      have hp := Amount.parse_plain (h.amount n hn).2
      simp [unitsOf, hp]
  have hlabel : r.entries.lookup "label" = r.label := by
    rw [lookup_entries_of_reserved h (by decide), fixedEntries, nonempty_eq_self h.label]
    cases r.amount <;> cases r.label <;> cases nonempty r.message <;> rfl
  have hmessage : r.entries.lookup "message" = r.message := by
    rw [lookup_entries_of_reserved h (by decide), fixedEntries, nonempty_eq_self h.message]
    cases r.amount <;> cases nonempty r.label <;> cases r.message <;> rfl
  rw [ofPairs, hamount, hlabel, hmessage, filter_entries h, firsts_of_nodup h.nodup]

theorem toUri_of_canonical (h : r.Canonical) : r.toUri = .ok (uriText r.payee r.entries) :=
  buildUri_eq_ok_iff.mpr
    ⟨any_negative_eq_false fun n hn => (h.amount n hn).1, h.writable, rfl⟩

theorem isUri_uriText (h : r.Canonical) (hscheme : isUriText network.scheme = true)
    (hcolon : ':' ∉ network.scheme.toList) (ha : Address.decode network a.text = .ok a) :
    IsUri network (uriText (.address a) r.entries) a.text (r.entries.map Pair.ofEntry) := by
  have hwritten := isWritten_uriText (.address a) r.entries
  have hnetwork : (Payee.address a).scheme = network.scheme := by
    rw [Payee.scheme, (Address.eq_of_decode ha).1]
  rw [hnetwork] at hwritten
  exact hwritten.isUri_ofEntry hscheme hcolon ⟨a, ha⟩ (fun e he => isQueryKey_of_mem_entries h he)
    fun e he => accepted_of_mem_entries h he

theorem parseUri_uriText (h : r.Canonical) (hscheme : isUriText network.scheme = true)
    (hcolon : ':' ∉ network.scheme.toList) (ha : Address.decode network a.text = .ok a)
    (hp : r.payee = .address a) :
    (parseUri network (uriText r.payee r.entries)).outcome = .ok r := by
  rw [hp]
  refine outcome_eq_ok_iff.mpr ⟨a, _, isUri_uriText h hscheme hcolon ha, ha, ?_⟩
  rw [map_entry_ofEntry, ← hp, ofPairs_entries h]

end PaymentRequest

end PaymentUri
