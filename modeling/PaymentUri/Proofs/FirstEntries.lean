import PaymentUri.Parse
import Mathlib.Data.List.Induction

namespace PaymentUri

variable {e : String × String} {es : List (String × String)} {k : String}

theorem lookup_eq_none (h : ∀ e ∈ es, e.1 ≠ k) : es.lookup k = none := by
  rw [List.lookup_eq_none_iff]
  intro e he
  simpa using (h e he).symm

theorem mem_keys_iff : k ∈ es.map Prod.fst ↔ (es.lookup k).isSome = true := by
  rw [List.mem_map, List.lookup_isSome_iff]
  exact exists_congr fun e => and_congr_right fun _ => eq_comm.trans beq_iff_eq.symm

theorem lookup_append_of_eq_some {v : String} (h : es.lookup k = some v) (fs : List (String × String)) :
    (es ++ fs).lookup k = some v := by
  rw [List.lookup_append, h, Option.some_or]

def firsts : List (String × String) → List (String × String)
  | [] => []
  | e :: es => e :: (firsts es).filter fun f => f.1 ≠ e.1

theorem mem_of_mem_firsts (h : e ∈ firsts es) : e ∈ es := by
  induction es with
  | nil => exact h
  | cons d es ih =>
      rcases List.mem_cons.mp h with rfl | h
      · exact List.mem_cons_self
      · exact List.mem_cons_of_mem d (ih (List.mem_filter.mp h).1)

theorem firsts_concat (es : List (String × String)) (e : String × String) :
    firsts (es ++ [e]) = if e.1 ∈ es.map Prod.fst then firsts es else firsts es ++ [e] := by
  induction es with
  | nil => rfl
  | cons d es ih =>
      rw [List.cons_append, firsts, ih, List.map_cons]
      by_cases hd : e.1 = d.1
      · rw [if_pos (List.mem_cons.mpr (.inl hd)), firsts]
        split
        next => rfl
        next => simp [hd]
      · by_cases he : e.1 ∈ es.map Prod.fst
        · rw [if_pos he, if_pos (List.mem_cons_of_mem d.1 he), firsts]
        · rw [if_neg he, if_neg (mt List.mem_cons.mp (not_or.mpr ⟨hd, he⟩)), firsts]
          simp [hd]

theorem keys_firsts (es : List (String × String)) :
    (firsts es).map Prod.fst = (es.map Prod.fst).eraseDups := by
  induction es using List.reverseRecOn with
  | nil => rfl
  | append_singleton es e ih =>
      rw [firsts_concat, List.map_append, List.eraseDups_append, ← ih]
      by_cases he : e.1 ∈ es.map Prod.fst
      · simp [he, List.removeAll]
      · simp [he, List.removeAll, List.eraseDups_cons]

theorem firsts_prefix_append (es fs : List (String × String)) : firsts es <+: firsts (es ++ fs) := by
  induction es with
  | nil => exact List.nil_prefix
  | cons e es ih => exact (List.prefix_cons_inj e).mpr (ih.filter _)

theorem nodup_keys_firsts (es : List (String × String)) : ((firsts es).map Prod.fst).Nodup := by
  induction es with
  | nil => exact List.nodup_nil
  | cons e es ih =>
      rw [firsts, List.map_cons, List.nodup_cons]
      refine ⟨?_, ih.sublist (List.filter_sublist.map Prod.fst)⟩
      simp

theorem firsts_of_nodup (h : (es.map Prod.fst).Nodup) : firsts es = es := by
  induction es with
  | nil => rfl
  | cons e es ih =>
      rw [List.map_cons, List.nodup_cons] at h
      rw [firsts, ih h.2, List.filter_eq_self.mpr]
      intro f hf
      have hk : f.1 ≠ e.1 := by
        intro hk
        rw [← hk] at h
        exact h.1 (List.mem_map_of_mem hf)
      exact decide_eq_true hk

theorem lookup_filter {q : String × String → Bool} (h : ∀ v, q (k, v) = true) :
    (es.filter q).lookup k = es.lookup k := by
  induction es with
  | nil => rfl
  | cons e es ih =>
      obtain ⟨l, v⟩ := e
      by_cases hk : k = l
      · subst hk
        simp [h]
      · have hb : (k == l) = false := beq_false_of_ne hk
        by_cases hq : q (l, v) = true <;> simp [hq, List.lookup_cons, ih, hb]

theorem lookup_firsts (es : List (String × String)) (k : String) :
    (firsts es).lookup k = es.lookup k := by
  induction es with
  | nil => rfl
  | cons e es ih =>
      obtain ⟨l, v⟩ := e
      by_cases hk : k = l
      · subst hk
        simp [firsts]
      · rw [firsts, List.lookup_cons, List.lookup_cons, lookup_filter, ih]
        simpa using hk

end PaymentUri
