import PaymentUri.Alphabet
import PaymentUri.Proofs.Split
import Mathlib.Tactic.Tauto

namespace PaymentUri.Alphabet

variable {alphabet : Alphabet} {c sep : Char} {cs xs ys : List Char}

def isHex (c : Char) : Bool := (Text.hexDigit? c).isSome

def startsHex : List Char → Bool
  | a :: b :: _ => isHex a && isHex b
  | _ => false

/-- What a legal text is, position by position: no character is foreign to the alphabet, and behind
every percent sign stand two hexadecimal digits. -/
structure Legal (alphabet : Alphabet) (cs : List Char) : Prop where
  contained : ∀ c ∈ cs, c = '%' ∨ alphabet.contains c = true
  escaped : ∀ rest, '%' :: rest <:+ cs → startsHex rest = true

theorem contains_percent (alphabet : Alphabet) : alphabet.contains '%' = false := by
  cases alphabet <;> decide

theorem isUnreserved_of_isHex (h : isHex c = true) : Escape.isUnreserved c = true := by
  have hc : (c.isUpper || c.isLower || c.isDigit) = true := by
    simp only [isHex, Text.hexDigit?] at h
    split at h
    next hd => rw [hd, Bool.or_true]
    split at h
    next hl =>
      simp only [Bool.and_eq_true, decide_eq_true_eq, Char.le_def] at hl
      have hlower : c.isLower = true :=
        Bool.and_eq_true_iff.mpr ⟨decide_eq_true hl.1, decide_eq_true (UInt32.le_trans hl.2 (by decide))⟩
      rw [hlower, Bool.or_true, Bool.true_or]
    split at h
    next hu =>
      simp only [Bool.and_eq_true, decide_eq_true_eq, Char.le_def] at hu
      have hupper : c.isUpper = true := decide_eq_true ⟨hu.1, UInt32.le_trans hu.2 (by decide)⟩
      rw [hupper, Bool.true_or, Bool.true_or]
    next => cases h
  have halphanum : c.isAlphanum = true := hc
  simp [Escape.isUnreserved, halphanum]

theorem contains_of_isUnreserved (h : Escape.isUnreserved c = true) : alphabet.contains c = true := by
  simp [contains, h]

theorem contains_of_isHex (h : isHex c = true) : alphabet.contains c = true :=
  contains_of_isUnreserved (isUnreserved_of_isHex h)

theorem ne_percent_of_contains (h : alphabet.contains c = true) : c ≠ '%' := by
  rintro rfl
  rw [contains_percent] at h
  exact Bool.false_ne_true h

theorem byte?_isSome (a b : Char) : (Escape.byte? a b).isSome = (isHex a && isHex b) := by
  cases ha : Text.hexDigit? a <;> cases hb : Text.hexDigit? b <;> simp [Escape.byte?, isHex, ha, hb]

theorem spells_cons_of_ne (h : c ≠ '%') :
    alphabet.spells (c :: cs) = (alphabet.contains c && alphabet.spells cs) := by
  rw [spells]
  rintro a b ds rfl
  exact absurd rfl h

theorem spells_cons (alphabet : Alphabet) (c : Char) (cs : List Char) :
    alphabet.spells (c :: cs) =
      ((c == '%' && startsHex cs || alphabet.contains c) && alphabet.spells cs) := by
  by_cases hc : c = '%'
  · subst c
    match cs with
    | [] => simp [spells, startsHex, contains_percent]
    | [a] => simp [spells, startsHex, contains_percent]
    | a :: b :: ds =>
        rw [spells, byte?_isSome]
        cases ha : isHex a with
        | false => simp [startsHex, ha, contains_percent]
        | true =>
            cases hb : isHex b with
            | false => simp [startsHex, hb, contains_percent]
            | true =>
                have ha' : alphabet.contains a = true := contains_of_isHex ha
                have hb' : alphabet.contains b = true := contains_of_isHex hb
                rw [spells_cons_of_ne (ne_percent_of_contains ha'),
                  spells_cons_of_ne (ne_percent_of_contains hb')]
                simp [startsHex, ha, hb, ha', hb']
  · rw [spells_cons_of_ne hc]
    rw [beq_false_of_ne hc, Bool.false_and, Bool.false_or]

theorem spells_iff_legal : alphabet.spells cs = true ↔ alphabet.Legal cs := by
  induction cs with
  | nil => exact ⟨fun _ => ⟨by simp, by simp⟩, fun _ => rfl⟩
  | cons c cs ih =>
      rw [spells_cons, Bool.and_eq_true, ih]
      constructor
      · rintro ⟨hc, hcs⟩
        refine ⟨?_, ?_⟩
        · intro d hd
          rcases List.mem_cons.mp hd with rfl | hd
          · simp only [Bool.or_eq_true, Bool.and_eq_true, beq_iff_eq] at hc
            exact hc.imp_left And.left
          · exact hcs.contained d hd
        · intro rest hr
          rcases List.suffix_cons_iff.mp hr with he | hr
          · obtain ⟨rfl, rfl⟩ := List.cons.inj he
            simpa [contains_percent] using hc
          · exact hcs.escaped rest hr
      · intro h
        refine ⟨?_, ⟨fun d hd => h.contained d (List.mem_cons_of_mem c hd),
          fun rest hr => h.escaped rest (hr.trans (List.suffix_cons c cs))⟩⟩
        rcases h.contained c List.mem_cons_self with rfl | hc
        · simp [h.escaped cs (List.suffix_refl _)]
        · simp [hc]

instance (alphabet : Alphabet) (cs : List Char) : Decidable (alphabet.Legal cs) :=
  decidable_of_iff (alphabet.spells cs = true) spells_iff_legal

theorem contains_of_spells (h : alphabet.spells cs = true) (hc : c ∈ cs) :
    c = '%' ∨ alphabet.contains c = true :=
  (spells_iff_legal.mp h).contained c hc

theorem startsHex_append (h : startsHex xs = true) (ys : List Char) :
    startsHex (xs ++ ys) = true := by
  match xs with
  | [] | [_] => simp [startsHex] at h
  | _ :: _ :: _ => exact h

theorem startsHex_append_cons (h : isHex sep = false) (xs ys : List Char) :
    startsHex (xs ++ sep :: ys) = startsHex xs := by
  match xs with
  | [] => cases ys <;> simp [startsHex, h]
  | [a] => simp [startsHex, h]
  | _ :: _ :: _ => rfl

theorem spells_append (h : alphabet.spells xs = true) (ys : List Char) :
    alphabet.spells (xs ++ ys) = alphabet.spells ys := by
  induction xs with
  | nil => rfl
  | cons x xs ih =>
      rw [spells_cons, Bool.and_eq_true, Bool.or_eq_true, Bool.and_eq_true] at h
      obtain ⟨hx, hxs⟩ := h
      rw [List.cons_append, spells_cons, ih hxs]
      rcases hx with ⟨hp, hh⟩ | hx
      · simp [hp, startsHex_append hh]
      · simp [hx]

/-- A separator never falls inside an escape, and no escape reaches across one. -/
theorem spells_append_cons (hs : alphabet.contains sep = true) (hh : isHex sep = false)
    (xs ys : List Char) :
    alphabet.spells (xs ++ sep :: ys) = (alphabet.spells xs && alphabet.spells ys) := by
  induction xs with
  | nil => simp [spells_cons, hs, spells]
  | cons x xs ih =>
      rw [List.cons_append, spells_cons, spells_cons, startsHex_append_cons hh, ih, Bool.and_assoc]

theorem spells_intercalate (hs : alphabet.contains sep = true) (hh : isHex sep = false)
    (pieces : List (List Char)) :
    alphabet.spells ([sep].intercalate pieces) = pieces.all alphabet.spells := by
  induction pieces with
  | nil => rfl
  | cons p ps ih =>
      cases ps with
      | nil => simp
      | cons q qs =>
          rw [List.intercalate_cons_cons, List.append_assoc, List.singleton_append, spells_append_cons hs hh, ih]
          rfl

theorem spells_of_mem_split (hs : alphabet.contains sep = true) (hh : isHex sep = false)
    (h : alphabet.spells cs = true) {piece : List Char} (hp : piece ∈ Text.split sep cs) :
    alphabet.spells piece = true := by
  rw [← Text.intercalate_split sep cs, spells_intercalate hs hh] at h
  exact List.all_eq_true.mp h piece hp

theorem spells_cut (hs : alphabet.contains sep = true) (hh : isHex sep = false)
    (h : alphabet.spells cs = true) :
    alphabet.spells (Text.cut sep cs).1 = true ∧ alphabet.spells (Text.cut sep cs).2 = true := by
  by_cases hm : sep ∈ cs
  · obtain ⟨xs, ys, -, rfl, hcut⟩ := Text.exists_append_of_mem hm
    rw [hcut]
    rw [spells_append_cons hs hh, Bool.and_eq_true] at h
    exact h
  · rw [Text.cut_of_not_mem hm]
    exact ⟨h, rfl⟩

theorem spells_of_contains {other : Alphabet} (h : alphabet.spells cs = true)
    (hsub : ∀ c ∈ cs, alphabet.contains c = true → other.contains c = true) :
    other.spells cs = true := by
  rw [spells_iff_legal] at h ⊢
  exact ⟨fun c hc => (h.contained c hc).imp_right (hsub c hc), h.escaped⟩

theorem contains_iff :
    alphabet.contains c = true ↔ Escape.isUnreserved c = true ∨ c ∈ alphabet.delimiters := by
  simp [contains]

theorem contains_iff_of_delimiters {lacking : List Char}
    (hd : alphabet.delimiters = uri.delimiters.filter fun c => !lacking.contains c)
    (hu : lacking.any Escape.isUnreserved = false) :
    alphabet.contains c = true ↔ uri.contains c = true ∧ c ∉ lacking := by
  rw [contains_iff, contains_iff, hd, List.mem_filter]
  have hc : Escape.isUnreserved c = true → c ∉ lacking := by
    intro h hm
    rw [List.any_eq_true.mpr ⟨c, hm, h⟩] at hu
    cases hu
  simp only [Bool.not_eq_true', List.contains_eq_mem, decide_eq_false_iff_not]
  tauto

theorem contains_segment_iff :
    segment.contains c = true ↔ uri.contains c = true ∧ c ∉ ['/', '?'] :=
  contains_iff_of_delimiters (by decide) (by decide)

theorem contains_key_iff :
    key.contains c = true ↔ uri.contains c = true ∧ c ∉ ['&', '=', '?'] :=
  contains_iff_of_delimiters (by decide) (by decide)

theorem spells_iff_of_contains_iff {lacking : List Char}
    (hc : ∀ c, alphabet.contains c = true ↔ uri.contains c = true ∧ c ∉ lacking)
    (hp : '%' ∉ lacking) (h : uri.spells cs = true) :
    alphabet.spells cs = true ↔ ∀ c ∈ lacking, c ∉ cs := by
  constructor
  · intro hs c hl hm
    rcases contains_of_spells hs hm with rfl | hk
    · exact hp hl
    · exact ((hc c).mp hk).2 hl
  · intro hl
    exact spells_of_contains h fun c hm hu => (hc c).mpr ⟨hu, fun hm' => hl c hm' hm⟩

theorem segment_spells_iff (h : uri.spells cs = true) :
    segment.spells cs = true ↔ ∀ c ∈ ['/', '?'], c ∉ cs :=
  spells_iff_of_contains_iff (fun _ => contains_segment_iff) (by decide) h

theorem key_spells_iff (h : uri.spells cs = true) :
    key.spells cs = true ↔ ∀ c ∈ ['&', '=', '?'], c ∉ cs :=
  spells_iff_of_contains_iff (fun _ => contains_key_iff) (by decide) h

theorem uri_spells_of_key (h : key.spells cs = true) : uri.spells cs = true :=
  spells_of_contains h fun _ _ hk => (contains_key_iff.mp hk).1

end PaymentUri.Alphabet
