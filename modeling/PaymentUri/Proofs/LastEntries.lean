import PaymentUri.Proofs.Request

namespace PaymentUri

variable {e : String × String} {es : List (String × String)} {k l v : String}

theorem keys_setEntry_of_mem (h : k ∈ es.map Prod.fst) : (setEntry k v es).map Prod.fst = es.map Prod.fst := by
  induction es with
  | nil => exact absurd h List.not_mem_nil
  | cons e es ih =>
      rw [setEntry]
      split
      next he => rw [List.map_cons, List.map_cons, he]
      next he =>
        have hrest := (List.mem_cons.mp h).resolve_left (Ne.symm he)
        rw [List.map_cons, List.map_cons, ih hrest]

theorem lookup_setEntry_self (k v : String) (es : List (String × String)) :
    (setEntry k v es).lookup k = some v := by
  induction es with
  | nil => exact List.lookup_cons_self
  | cons e es ih =>
      rw [setEntry]
      split
      next => exact List.lookup_cons_self
      next he => rw [List.lookup_cons, beq_false_of_ne (Ne.symm he), ih]

theorem lookup_setEntry_of_ne (h : l ≠ k) : (setEntry k v es).lookup l = es.lookup l := by
  induction es with
  | nil => rw [setEntry, List.lookup_cons, beq_false_of_ne h]
  | cons e es ih =>
      obtain ⟨m, w⟩ := e
      rw [setEntry]
      split
      next he =>
        have hm : m = k := he
        rw [List.lookup_cons, List.lookup_cons, hm, beq_false_of_ne h]
      next => rw [List.lookup_cons, List.lookup_cons, ih]

theorem ofEntries_concat (es : List (String × String)) (e : String × String) :
    ofEntries (es ++ [e]) = setEntry e.1 e.2 (ofEntries es) := by
  rw [ofEntries, List.foldl_append]
  rfl

theorem keys_ofEntries (es : List (String × String)) :
    (ofEntries es).map Prod.fst = (es.map Prod.fst).eraseDups := by
  induction es using List.reverseRecOn with
  | nil => rfl
  | append_singleton es e ih =>
      rw [ofEntries_concat, List.map_append, List.eraseDups_append, ← ih]
      by_cases he : e.1 ∈ (ofEntries es).map Prod.fst
      · have hmem : e.1 ∈ es.map Prod.fst := by rwa [ih, List.mem_eraseDups] at he
        rw [keys_setEntry_of_mem he]
        simp [hmem, List.removeAll]
      · have hmem : e.1 ∉ es.map Prod.fst := by rwa [ih, List.mem_eraseDups] at he
        rw [setEntry_of_not_mem he]
        simp [hmem, List.removeAll, List.eraseDups_cons]

theorem nodup_keys_ofEntries (es : List (String × String)) : ((ofEntries es).map Prod.fst).Nodup := by
  rw [keys_ofEntries, ← keys_firsts]
  exact nodup_keys_firsts es

theorem lookup_ofEntries (es : List (String × String)) (k : String) :
    (ofEntries es).lookup k = es.reverse.lookup k := by
  induction es using List.reverseRecOn with
  | nil => rfl
  | append_singleton es e ih =>
      obtain ⟨l, v⟩ := e
      rw [ofEntries_concat, List.reverse_append, List.reverse_singleton, List.singleton_append, List.lookup_cons]
      by_cases hk : k = l
      · rw [hk, lookup_setEntry_self, beq_self_eq_true]
      · rw [lookup_setEntry_of_ne hk, ih, beq_false_of_ne hk]

theorem mem_setEntry (h : e ∈ setEntry k v es) : e = (k, v) ∨ e ∈ es := by
  induction es with
  | nil => exact .inl (List.mem_singleton.mp h)
  | cons f es ih =>
      rw [setEntry] at h
      split at h
      next =>
        rcases List.mem_cons.mp h with h | h
        · exact .inl h
        · exact .inr (List.mem_cons_of_mem f h)
      next =>
        rcases List.mem_cons.mp h with rfl | h
        · exact .inr List.mem_cons_self
        · exact (ih h).imp_right (List.mem_cons_of_mem f)

theorem mem_of_mem_ofEntries (h : e ∈ ofEntries es) : e ∈ es := by
  induction es using List.reverseRecOn with
  | nil => exact h
  | append_singleton es f ih =>
      rw [ofEntries_concat] at h
      rcases mem_setEntry h with rfl | h
      · exact List.mem_append_right es List.mem_cons_self
      · exact List.mem_append_left _ (ih h)

end PaymentUri
