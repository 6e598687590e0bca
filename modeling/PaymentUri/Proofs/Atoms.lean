import PaymentUri.Proofs.Escape

namespace PaymentUri

variable {c : Char} {cs piece : List Char} {p : Char → Bool}

/-- A stretch of a text between two characters that part it, or up to an end of the text. -/
def Text.IsPiece (p : Char → Bool) (cs piece : List Char) : Prop :=
  ∃ before behind, cs = before ++ piece ++ behind ∧
    (∀ c ∈ before.getLast?, p c = true) ∧ ∀ c ∈ behind.head?, p c = true

theorem Text.isPiece_self (p : Char → Bool) (cs : List Char) : IsPiece p cs cs :=
  ⟨[], [], by simp, by simp, by simp⟩

/-- Splitting leaves pieces; only some, since a piece may have separators within itself. -/
theorem Text.isPiece_of_mem_splitOnP (h : piece ∈ cs.splitOnP p) : IsPiece p cs piece := by
  induction hn : cs.length using Nat.strongRecOn generalizing cs with
  | ind n ih =>
      by_cases hfree : ∀ c ∈ cs, p c = false
      · rw [List.splitOnP_eq_singleton hfree, List.mem_singleton] at h
        rw [h]
        exact isPiece_self p cs
      -- one separator is enough: what stands on either side of it is shorter
      · simp only [not_forall, Bool.not_eq_false] at hfree
        obtain ⟨sep, hmem, hsep⟩ := hfree
        obtain ⟨xs, ys, rfl⟩ := List.append_of_mem hmem
        rw [List.length_append, List.length_cons] at hn
        rw [List.splitOnP_append_cons xs ys hsep, List.mem_append] at h
        rcases h with h | h
        · obtain ⟨before, behind, rfl, hbefore, hbehind⟩ := ih xs.length (by omega) h rfl
          refine ⟨before, behind ++ sep :: ys, by simp, hbefore, ?_⟩
          cases behind with
          | nil => simpa using hsep
          | cons d ds => exact hbehind
        · obtain ⟨before, behind, rfl, hbefore, hbehind⟩ := ih ys.length (by omega) h rfl
          refine ⟨xs ++ sep :: before, behind, by simp, ?_, hbehind⟩
          cases hlast : before.getLast? with
          | none => simpa [List.getLast?_cons, hlast] using hsep
          | some d => simpa [List.getLast?_cons, hlast] using hbefore d hlast

namespace Alphabet

variable {alphabet : Alphabet} {a b : Char}

def hexDigits : List Char := "0123456789abcdefABCDEF".toList

theorem isHex_iff : isHex c = true ↔ c ∈ hexDigits := by
  have hall : ∀ k : Fin 128, isHex (Char.ofNat k) = true ↔ Char.ofNat k ∈ hexDigits := by
    decide +kernel
  by_cases hlt : c.toNat < 128
  · simpa using hall ⟨c.toNat, hlt⟩
  · refine iff_of_false (mt (fun h => Escape.toNat_lt_of_isUnreserved (isUnreserved_of_isHex h)) hlt) fun h => hlt ?_
    have hdigits : hexDigits.all (·.toNat < 128) = true := by decide
    exact of_decide_eq_true (List.all_eq_true.mp hdigits c h)

/-- The texts that every legal text is a row of: a character of the alphabet, and an escape. -/
inductive IsAtom (alphabet : Alphabet) : List Char → Prop where
  | char {c : Char} (hc : alphabet.contains c = true) : IsAtom alphabet [c]
  | escape {a b : Char} (ha : a ∈ hexDigits) (hb : b ∈ hexDigits) : IsAtom alphabet ['%', a, b]

theorem IsAtom.spells_append {atom : List Char} (h : alphabet.IsAtom atom) (cs : List Char) :
    alphabet.spells (atom ++ cs) = alphabet.spells cs := by
  refine Alphabet.spells_append ?_ cs
  cases h with
  | char hc => simp [spells_cons, hc, spells]
  | escape ha hb => simp [spells, byte?_isSome, isHex_iff.mpr ha, isHex_iff.mpr hb]

theorem exists_atoms_of_spells (h : alphabet.spells cs = true) :
    ∃ atoms : List (List Char), (∀ atom ∈ atoms, alphabet.IsAtom atom) ∧ atoms.flatten = cs := by
  fun_induction spells alphabet cs with
  | case1 => exact ⟨[], by simp, rfl⟩
  | case2 a b cs ih =>
      rw [Bool.and_eq_true, byte?_isSome, Bool.and_eq_true] at h
      obtain ⟨⟨ha, hb⟩, hcs⟩ := h
      obtain ⟨atoms, hatoms, rfl⟩ := ih hcs
      refine ⟨['%', a, b] :: atoms, ?_, rfl⟩
      exact List.forall_mem_cons.mpr ⟨.escape (isHex_iff.mp ha) (isHex_iff.mp hb), hatoms⟩
  | case3 c cs _ ih =>
      rw [Bool.and_eq_true] at h
      obtain ⟨hc, hcs⟩ := h
      obtain ⟨atoms, hatoms, rfl⟩ := ih hcs
      exact ⟨[c] :: atoms, List.forall_mem_cons.mpr ⟨.char hc, hatoms⟩, rfl⟩

theorem spells_iff_atoms :
    alphabet.spells cs = true ↔
      ∃ atoms : List (List Char), (∀ atom ∈ atoms, alphabet.IsAtom atom) ∧ atoms.flatten = cs := by
  refine ⟨exists_atoms_of_spells, ?_⟩
  rintro ⟨atoms, hatoms, rfl⟩
  induction atoms with
  | nil => rfl
  | cons atom atoms ih =>
      obtain ⟨hatom, hatoms⟩ := List.forall_mem_cons.mp hatoms
      rw [List.flatten_cons, hatom.spells_append]
      exact ih hatoms

def separators : List Char := [':', '?', '&', '=']

theorem separators_legal {sep : Char} (h : sep ∈ separators) : uri.contains sep = true ∧ isHex sep = false := by
  have hall : separators.all (fun sep => uri.contains sep && !isHex sep) = true := by decide
  simpa using List.all_eq_true.mp hall sep h

theorem spells_of_isPiece (h : uri.spells cs = true) (hp : ∀ c, p c = true → c ∈ separators)
    (hpiece : Text.IsPiece p cs piece) : uri.spells piece = true := by
  obtain ⟨before, behind, rfl, hbefore, hbehind⟩ := hpiece
  have hfront : uri.spells (before ++ piece) = true := by
    cases behind with
    | nil => rwa [List.append_nil] at h
    | cons sep behind =>
        obtain ⟨hsep, hhex⟩ := separators_legal (hp sep (hbehind sep rfl))
        rw [spells_append_cons hsep hhex, Bool.and_eq_true] at h
        exact h.1
  cases hlast : before.getLast? with
  | none =>
      rw [List.getLast?_eq_none_iff.mp hlast] at hfront
      exact hfront
  | some sep =>
      obtain ⟨xs, rfl⟩ := List.getLast?_eq_some_iff.mp hlast
      obtain ⟨hsep, hhex⟩ := separators_legal (hp sep (hbefore sep hlast))
      rw [List.append_assoc, List.singleton_append, spells_append_cons hsep hhex, Bool.and_eq_true] at hfront
      exact hfront.2

end Alphabet

open Alphabet (IsAtom separators)

/-- The scanner accepts exactly the rows of characters of an alphabet and escapes. So a piece that separators leave
of a legal text is legal again, and it is a path segment or a key unless it has a character that these lack. -/
theorem scanner_accepts_atoms :
    (∀ (alphabet : Alphabet) (cs : List Char),
        alphabet.spells cs = true ↔
          ∃ atoms : List (List Char), (∀ atom ∈ atoms, alphabet.IsAtom atom) ∧ atoms.flatten = cs) ∧
      ∀ (text : String) (p : Char → Bool), isUriText text = true → (∀ c, p c = true → c ∈ separators) →
        (∀ piece ∈ text.toList.splitOnP p, Text.IsPiece p text.toList piece) ∧
          ∀ piece : String, Text.IsPiece p text.toList piece.toList →
            isUriText piece = true ∧
              (isPathSegment piece = true ↔ '/' ∉ piece.toList ∧ '?' ∉ piece.toList) ∧
              (isQueryKey piece = true ↔
                piece ≠ "" ∧ '&' ∉ piece.toList ∧ '=' ∉ piece.toList ∧ '?' ∉ piece.toList) := by
  refine ⟨fun alphabet cs => Alphabet.spells_iff_atoms, fun text p htext hp => ⟨fun piece => ?_, fun piece hpiece => ?_⟩⟩
  · exact Text.isPiece_of_mem_splitOnP
  · have hlegal := Alphabet.spells_of_isPiece htext hp hpiece
    refine ⟨hlegal, ?_, ?_⟩
    · rw [isPathSegment, Alphabet.segment_spells_iff hlegal]
      simp
    · rw [isQueryKey, Bool.and_eq_true, bne_iff_ne, Alphabet.key_spells_iff hlegal]
      simp

theorem scanner_accepts_atoms_sample :
    Text.IsPiece separators.contains "digibyte:D%41?am%6Funt=1/2&=3".toList "am%6Funt".toList ∧
      isQueryKey "am%6Funt" = true ∧ isPathSegment "1/2" = false := by
  have hp : ∀ c, separators.contains c = true → c ∈ separators := fun c => List.contains_iff_mem.mp
  obtain ⟨hpieces, hlegal⟩ :=
    scanner_accepts_atoms.2 "digibyte:D%41?am%6Funt=1/2&=3" separators.contains (by decide +kernel) hp
  have hkey := hpieces "am%6Funt".toList (by decide +kernel)
  have hvalue := hpieces "1/2".toList (by decide +kernel)
  refine ⟨hkey, (hlegal "am%6Funt" hkey).2.2.mpr (by decide +kernel), ?_⟩
  rw [← Bool.not_eq_true, (hlegal "1/2" hvalue).2.1]
  decide +kernel

end PaymentUri
