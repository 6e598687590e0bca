import PaymentUri.Text.Split

namespace PaymentUri.Text

variable {sep : Char} {cs xs ys : List Char}

theorem split_eq_splitOn (sep : Char) (cs : List Char) : split sep cs = cs.splitOn sep := by
  induction cs with
  | nil => rfl
  | cons c cs ih =>
      rw [split, List.splitOn_cons_eq_if_modifyHead, ih]
      simp

theorem split_ne_nil (sep : Char) (cs : List Char) : split sep cs ≠ [] := by
  rw [split_eq_splitOn]
  exact List.splitOn_ne_nil sep cs

theorem split_of_not_mem (h : sep ∉ cs) : split sep cs = [cs] := by
  rw [split_eq_splitOn, List.splitOn_eq_singleton h]

theorem split_append_cons (h : sep ∉ xs) (ys : List Char) :
    split sep (xs ++ sep :: ys) = xs :: split sep ys := by
  rw [split_eq_splitOn, split_eq_splitOn, List.splitOn_append_cons_self_of_not_mem h]

theorem split_append_sep (sep : Char) (xs ys : List Char) :
    split sep (xs ++ sep :: ys) = split sep xs ++ split sep ys := by
  rw [split_eq_splitOn, split_eq_splitOn, split_eq_splitOn, List.splitOn_append_cons_self]

theorem intercalate_split (sep : Char) (cs : List Char) : [sep].intercalate (split sep cs) = cs := by
  rw [split_eq_splitOn, List.intercalate_splitOn]

theorem mem_intercalate_iff {c : Char} (hc : c ≠ sep) (pieces : List (List Char)) :
    c ∈ [sep].intercalate pieces ↔ ∃ p ∈ pieces, c ∈ p := by
  induction pieces with
  | nil => simp
  | cons p ps ih =>
      cases ps with
      | nil => simp
      | cons q qs =>
          rw [List.intercalate_cons_cons, List.mem_append, List.mem_append, ih]
          simp [hc]

theorem not_mem_of_mem_split {piece : List Char} (h : piece ∈ split sep cs) : sep ∉ piece := by
  induction cs generalizing piece with
  | nil =>
      rw [List.mem_singleton.mp h]
      exact List.not_mem_nil
  | cons c cs ih =>
      rw [split] at h
      split at h
      next hc =>
        rcases List.mem_cons.mp h with rfl | h
        · exact List.not_mem_nil
        · exact ih h
      next hc =>
        obtain ⟨head, tail, hs⟩ := List.exists_cons_of_ne_nil (split_ne_nil sep cs)
        rw [hs, List.modifyHead_cons, List.mem_cons] at h
        rcases h with rfl | h
        · rw [List.mem_cons, not_or]
          exact ⟨Ne.symm hc, ih (by rw [hs]; exact List.mem_cons_self)⟩
        · exact ih (by rw [hs]; exact List.mem_cons_of_mem head h)

/-- The pieces of a text are the only separator-free texts that it is made of. -/
theorem split_eq_iff {pieces : List (List Char)} :
    split sep cs = pieces ↔
      pieces ≠ [] ∧ (∀ p ∈ pieces, sep ∉ p) ∧ [sep].intercalate pieces = cs := by
  constructor
  · rintro rfl
    exact ⟨split_ne_nil sep cs, fun p hp => not_mem_of_mem_split hp, intercalate_split sep cs⟩
  · rintro ⟨hne, hfree, rfl⟩
    rw [split_eq_splitOn, List.splitOn_intercalate sep hfree hne]

theorem length_split (sep : Char) (cs : List Char) :
    (split sep cs).length = cs.count sep + 1 := by
  induction cs with
  | nil => rfl
  | cons c cs ih =>
      rw [split, List.count_cons]
      by_cases hc : c = sep <;> simp [hc, ih]

theorem exists_split_of_two_le (h : 2 ≤ cs.count sep) :
    ∃ p q r rest, split sep cs = p :: q :: r :: rest := by
  have hl := length_split sep cs
  match hs : split sep cs with
  | p :: q :: r :: rest => exact ⟨p, q, r, rest, rfl⟩
  | [] | [_] | [_, _] =>
      simp only [hs, List.length_cons, List.length_nil] at hl
      omega

theorem cut?_eq_none_iff : cut? sep cs = none ↔ sep ∉ cs := by
  induction cs with
  | nil => simp [cut?]
  | cons c cs ih =>
      by_cases hc : c = sep
      · simp [cut?, hc]
      · simp [cut?, hc, ih, Ne.symm hc]

theorem cut?_append_cons (h : sep ∉ xs) (ys : List Char) :
    cut? sep (xs ++ sep :: ys) = some (xs, ys) := by
  induction xs with
  | nil => simp [cut?]
  | cons x xs ih =>
      obtain ⟨hx, hxs⟩ := not_or.mp (mt List.mem_cons.mpr h)
      rw [List.cons_append, cut?, if_neg (Ne.symm hx), ih hxs]
      rfl

theorem cut?_eq_some_iff : cut? sep cs = some (xs, ys) ↔ sep ∉ xs ∧ cs = xs ++ sep :: ys := by
  constructor
  · intro h
    induction cs generalizing xs with
    | nil => simp [cut?] at h
    | cons c cs ih =>
        rw [cut?] at h
        split at h
        next hc =>
          simp only [Option.some.injEq, Prod.mk.injEq] at h
          obtain ⟨rfl, rfl⟩ := h
          exact ⟨List.not_mem_nil, by rw [hc]; rfl⟩
        next hc =>
          obtain ⟨⟨zs, ws⟩, hp, he⟩ := Option.map_eq_some_iff.mp h
          simp only [Prod.mk.injEq] at he
          obtain ⟨rfl, rfl⟩ := he
          obtain ⟨hz, rfl⟩ := ih hp
          exact ⟨mt List.mem_cons.mp (not_or.mpr ⟨Ne.symm hc, hz⟩), rfl⟩
  · rintro ⟨h, rfl⟩
    exact cut?_append_cons h ys

theorem cut_of_not_mem (h : sep ∉ cs) : cut sep cs = (cs, []) := by
  rw [cut, cut?_eq_none_iff.mpr h]
  rfl

theorem cut_append_cons (h : sep ∉ xs) (ys : List Char) : cut sep (xs ++ sep :: ys) = (xs, ys) := by
  rw [cut, cut?_append_cons h]
  rfl

theorem exists_append_of_mem (h : sep ∈ cs) :
    ∃ xs ys, sep ∉ xs ∧ cs = xs ++ sep :: ys ∧ cut sep cs = (xs, ys) := by
  cases hc : cut? sep cs with
  | none => exact absurd h (cut?_eq_none_iff.mp hc)
  | some p =>
      obtain ⟨hfree, he⟩ := cut?_eq_some_iff.mp hc
      exact ⟨p.1, p.2, hfree, he, by rw [cut, hc]; rfl⟩

theorem cut_append (h : sep ∉ xs) (ys : List Char) :
    cut sep (xs ++ ys) = (xs ++ (cut sep ys).1, (cut sep ys).2) := by
  by_cases hm : sep ∈ ys
  · obtain ⟨us, vs, hfree, rfl, hcut⟩ := exists_append_of_mem hm
    rw [hcut, ← List.append_assoc, cut_append_cons]
    simp [h, hfree]
  · rw [cut_of_not_mem hm, cut_of_not_mem]
    simp [h, hm]

theorem not_mem_cut_fst (sep : Char) (cs : List Char) : sep ∉ (cut sep cs).1 := by
  by_cases h : sep ∈ cs
  · obtain ⟨xs, ys, hfree, -, hcut⟩ := exists_append_of_mem h
    rwa [hcut]
  · rwa [cut_of_not_mem h]

theorem split_of_count_eq_one (h : cs.count sep = 1) :
    split sep cs = [(cut sep cs).1, (cut sep cs).2] := by
  have hm : sep ∈ cs := List.count_pos_iff.mp (by omega)
  obtain ⟨xs, ys, hfree, rfl, hcut⟩ := exists_append_of_mem hm
  rw [List.count_append, List.count_cons_self, List.count_eq_zero_of_not_mem hfree] at h
  have hys : sep ∉ ys := List.count_eq_zero.mp (by omega)
  rw [split_append_cons hfree, split_of_not_mem hys, hcut]

theorem mem_of_mem_cut_fst {sep c : Char} {cs : List Char} (h : c ∈ (cut sep cs).1) : c ∈ cs := by
  by_cases hm : sep ∈ cs
  · obtain ⟨xs, ys, -, rfl, hcut⟩ := exists_append_of_mem hm
    rw [hcut] at h
    exact List.mem_append_left _ h
  · rwa [cut_of_not_mem hm] at h

theorem afterLast_of_not_mem {sep : Char} {cs : List Char} (h : sep ∉ cs) : afterLast sep cs = cs := by
  rw [afterLast, split_of_not_mem h]
  rfl

theorem afterLast_mem_split (sep : Char) (cs : List Char) : afterLast sep cs ∈ split sep cs := by
  rw [afterLast, List.getLastD_eq_getLast?, List.getLast?_eq_some_getLast (split_ne_nil sep cs)]
  exact List.getLast_mem _

theorem mem_of_mem_afterLast {sep c : Char} {cs : List Char} (h : c ∈ afterLast sep cs) : c ≠ sep ∧ c ∈ cs := by
  have hpiece := afterLast_mem_split sep cs
  have hne : c ≠ sep := by
    rintro rfl
    exact not_mem_of_mem_split hpiece h
  refine ⟨hne, ?_⟩
  rw [← intercalate_split sep cs, mem_intercalate_iff hne]
  exact ⟨_, hpiece, h⟩

end PaymentUri.Text
