import PaymentUri.Proofs.Decimal

namespace PaymentUri.Text

variable {cs ds sign mantissa tail whole fraction : List Char} {negative : Bool} {e : Int}
  {d : Decimal}

def IsDigits (cs : List Char) : Prop := cs ≠ [] ∧ ∀ c ∈ cs, c.isDigit = true

inductive IsSign : List Char → Bool → Prop
  | absent : IsSign [] false
  | plus : IsSign ['+'] false
  | minus : IsSign ['-'] true

/-- Digits, or a point with digits on one side of it at least. The other two lists are the digits in
front of the point and those behind it. -/
inductive IsMantissa : List Char → List Char → List Char → Prop
  | whole (ds : List Char) (hd : IsDigits ds) : IsMantissa ds ds []
  | point (ds fs : List Char) (hd : IsDigits ds) (hf : ∀ c ∈ fs, c.isDigit = true) :
      IsMantissa (ds ++ '.' :: fs) ds fs
  | fraction (fs : List Char) (hf : IsDigits fs) : IsMantissa ('.' :: fs) [] fs

inductive IsExponent : List Char → Int → Prop
  | absent : IsExponent [] 0
  | marked (mark : Char) (sign ds : List Char) (negative : Bool) (hm : mark = 'e' ∨ mark = 'E')
      (hs : IsSign sign negative) (hd : IsDigits ds) :
      IsExponent (mark :: (sign ++ ds)) (if negative then -ofDigits ds else ofDigits ds)

structure Literal where
  negative : Bool
  whole : List Char
  fraction : List Char
  exponent : Int

namespace Literal

def IsSpelt (l : Literal) (cs : List Char) : Prop :=
  ∃ sign mantissa tail, IsSign sign l.negative ∧ IsMantissa mantissa l.whole l.fraction ∧
    IsExponent tail l.exponent ∧ cs = sign ++ mantissa ++ tail

def digits (l : Literal) : Nat := ofDigits (l.whole ++ l.fraction)

def value (l : Literal) : Decimal := ⟨l.negative, l.digits, l.exponent - l.fraction.length⟩

end Literal

theorem isDigit_ne {c d : Char} (hc : c.isDigit = true) (hd : d.isDigit = false) : c ≠ d := by
  rintro rfl
  simp [hc] at hd

theorem IsDigits.exists_cons (h : IsDigits cs) : ∃ c ds, c.isDigit = true ∧ cs = c :: ds := by
  obtain ⟨c, ds, rfl⟩ := List.exists_cons_of_ne_nil h.1
  exact ⟨c, ds, h.2 c List.mem_cons_self, rfl⟩

theorem isDigits_toDigits (n : Nat) : IsDigits (Nat.toDigits 10 n) :=
  ⟨Nat.toDigits_ne_nil, fun _ => isDigit_of_mem_toDigits⟩

theorem isSign_signed (negative : Bool) (cs : List Char) :
    ∃ sign, IsSign sign negative ∧ signed negative cs = sign ++ cs := by
  cases negative with
  | false => exact ⟨[], .absent, rfl⟩
  | true => exact ⟨['-'], .minus, rfl⟩

theorem takeSign_append (hs : IsSign sign negative) (h : ∀ c ∈ cs.head?, c ≠ '+' ∧ c ≠ '-') :
    takeSign (sign ++ cs) = (negative, cs) := by
  cases hs with
  | plus => rfl
  | minus => rfl
  | absent =>
      cases cs with
      | nil => rfl
      | cons c cs =>
          obtain ⟨hplus, hminus⟩ := h c rfl
          rw [List.nil_append, takeSign]
          · exact fun ds he => hplus (List.cons.inj he).1
          · exact fun ds he => hminus (List.cons.inj he).1

theorem exists_sign (h : takeSign cs = (negative, ds)) :
    ∃ sign, IsSign sign negative ∧ cs = sign ++ ds := by
  rw [takeSign.eq_def] at h
  split at h
  next => cases h; exact ⟨['+'], .plus, rfl⟩
  next => cases h; exact ⟨['-'], .minus, rfl⟩
  next => cases h; exact ⟨[], .absent, rfl⟩

theorem spanDigits_inverts (h : spanDigits cs = (ds, tail)) :
    cs = ds ++ tail ∧ ∀ c ∈ ds, c.isDigit = true := by
  rw [spanDigits, List.span_eq_takeWhile_dropWhile] at h
  cases h
  exact ⟨List.takeWhile_append_dropWhile.symm, fun c hc => List.mem_takeWhile_imp hc⟩

theorem head_ne_sign (h : ∀ c ∈ ds.head?, c.isDigit = true) :
    ∀ c ∈ ds.head?, c ≠ '+' ∧ c ≠ '-' :=
  fun c hc => ⟨isDigit_ne (h c hc) (by decide), isDigit_ne (h c hc) (by decide)⟩

theorem exponent?_eq_some_iff : exponent? cs = some e ↔ IsExponent cs e := by
  constructor
  · intro h
    cases cs with
    | nil =>
        cases h
        exact .absent
    | cons mark cs =>
        rw [exponent?] at h
        match htake : takeSign cs with
        | (negative, ds) =>
            obtain ⟨sign, hs, rfl⟩ := exists_sign htake
            rw [htake] at h
            dsimp only at h
            split at h
            next hc =>
              cases h
              exact .marked mark sign ds negative hc.1 hs ⟨hc.2.1, List.all_eq_true.mp hc.2.2⟩
            next => cases h
  · intro h
    cases h with
    | absent => rfl
    | marked mark sign ds negative hm hs hd =>
        obtain ⟨c, cs, hc, rfl⟩ := hd.exists_cons
        have htake : takeSign (sign ++ c :: cs) = (negative, c :: cs) :=
          takeSign_append hs (head_ne_sign (by simp [hc]))
        rw [exponent?, htake]
        exact if_pos ⟨hm, hd.1, List.all_eq_true.mpr hd.2⟩

theorem head_exponent (h : IsExponent tail e) :
    ∀ c ∈ tail.head?, c.isDigit = false ∧ c ≠ '.' := by
  cases h with
  | absent => simp
  | marked mark _ _ _ hm => rcases hm with rfl | rfl <;> simp

theorem head_mantissa (h : IsMantissa mantissa whole fraction) (tail : List Char) :
    ∀ c ∈ (mantissa ++ tail).head?, c ≠ '+' ∧ c ≠ '-' := by
  cases h with
  | whole ds hd =>
      obtain ⟨c, cs, hc, rfl⟩ := hd.exists_cons
      exact head_ne_sign (by simp [hc])
  | point ds fs hd hf =>
      obtain ⟨c, cs, hc, rfl⟩ := hd.exists_cons
      exact head_ne_sign (by simp [hc])
  | fraction fs hf => simp

def takeFraction : List Char → List Char × List Char
  | '.' :: cs => spanDigits cs
  | cs => ([], cs)

theorem takeFraction_of_exponent (h : IsExponent tail e) : takeFraction tail = ([], tail) := by
  have htail := head_exponent h
  cases tail with
  | nil => rfl
  | cons c cs =>
      rw [takeFraction]
      exact fun ds hc => (htail c rfl).2 (List.cons.inj hc).1

theorem takeFraction_inverts (h : takeFraction cs = (fraction, tail)) :
    (cs = tail ∧ fraction = []) ∨ (cs = '.' :: fraction ++ tail ∧ ∀ c ∈ fraction, c.isDigit = true) := by
  rw [takeFraction.eq_def] at h
  split at h
  next =>
    obtain ⟨rfl, hdigits⟩ := spanDigits_inverts h
    exact .inr ⟨rfl, hdigits⟩
  next =>
    cases h
    exact .inl ⟨rfl, rfl⟩

namespace Decimal

theorem read?_eq (cs : List Char) :
    read? cs =
      let (negative, cs) := takeSign cs
      let (whole, cs) := spanDigits cs
      let (fraction, cs) := takeFraction cs
      if whole = [] ∧ fraction = [] then none
      else (exponent? cs).map fun e => ⟨negative, ofDigits (whole ++ fraction), e - fraction.length⟩ :=
  rfl

theorem read?_of_parts {cs₁ cs₂ : List Char} (hs : takeSign cs = (negative, cs₁))
    (hw : spanDigits cs₁ = (whole, cs₂)) (hf : takeFraction cs₂ = (fraction, tail)) :
    read? cs = if whole = [] ∧ fraction = [] then none
      else (exponent? tail).map fun e => ⟨negative, ofDigits (whole ++ fraction), e - fraction.length⟩ := by
  simp only [read?_eq, hs, hw, hf]

theorem read?_of_isSpelt {l : Literal} (h : l.IsSpelt cs) : read? cs = some l.value := by
  obtain ⟨sign, mantissa, tail, hs, hm, he, rfl⟩ := h
  obtain ⟨negative, whole, fraction, e⟩ := l
  dsimp only at hs hm he
  have htail : ∀ c ∈ tail.head?, c.isDigit = false := fun c hc => (head_exponent he c hc).1
  rw [List.append_assoc]
  have hsign := takeSign_append hs (head_mantissa hm tail)
  cases hm with
  | whole ds hd =>
      rw [read?_of_parts hsign (spanDigits_append hd.2 tail htail) (takeFraction_of_exponent he),
        if_neg (fun h => hd.1 h.1), exponent?_eq_some_iff.mpr he]
      rfl
  | point ds fs hd hf =>
      rw [List.append_assoc] at hsign ⊢
      rw [read?_of_parts hsign (spanDigits_append hd.2 ('.' :: fraction ++ tail) (by simp))
          (spanDigits_append hf tail htail),
        if_neg (fun h => hd.1 h.1), exponent?_eq_some_iff.mpr he]
      rfl
  | fraction fs hf =>
      have hwhole : spanDigits ('.' :: fraction ++ tail) = ([], '.' :: fraction ++ tail) := rfl
      rw [read?_of_parts hsign hwhole (spanDigits_append hf.2 tail htail),
        if_neg (fun h => hf.1 h.2), exponent?_eq_some_iff.mpr he]
      rfl

theorem read?_signed (negative : Bool) (hm : IsMantissa mantissa whole fraction)
    (he : IsExponent tail e) :
    read? (signed negative (mantissa ++ tail)) =
      some ⟨negative, ofDigits (whole ++ fraction), e - fraction.length⟩ := by
  obtain ⟨sign, hs, hsigned⟩ := isSign_signed negative (mantissa ++ tail)
  rw [hsigned, ← List.append_assoc]
  exact read?_of_isSpelt (l := ⟨negative, whole, fraction, e⟩) ⟨sign, mantissa, tail, hs, hm, he, rfl⟩

theorem isMantissa_of_parts (hw : ∀ c ∈ whole, c.isDigit = true)
    (hf : (cs = tail ∧ fraction = []) ∨ (cs = '.' :: fraction ++ tail ∧ ∀ c ∈ fraction, c.isDigit = true))
    (hne : ¬(whole = [] ∧ fraction = [])) :
    ∃ mantissa, IsMantissa mantissa whole fraction ∧ whole ++ cs = mantissa ++ tail := by
  rcases hf with ⟨rfl, rfl⟩ | ⟨rfl, hf⟩
  · exact ⟨whole, .whole whole ⟨fun h => hne ⟨h, rfl⟩, hw⟩, rfl⟩
  · by_cases hnil : whole = []
    · subst hnil
      exact ⟨_, .fraction fraction ⟨fun h => hne ⟨rfl, h⟩, hf⟩, rfl⟩
    · exact ⟨_, .point whole fraction ⟨hnil, hw⟩ hf, by simp⟩

/-- The texts that are read as decimals are the literals, and each is read as its value. -/
theorem read?_eq_some_iff : read? cs = some d ↔ ∃ l : Literal, l.IsSpelt cs ∧ l.value = d := by
  constructor
  · intro h
    obtain ⟨⟨negative, cs₁⟩, hs⟩ : ∃ r, takeSign cs = r := ⟨_, rfl⟩
    obtain ⟨⟨whole, cs₂⟩, hw⟩ : ∃ r, spanDigits cs₁ = r := ⟨_, rfl⟩
    obtain ⟨⟨fraction, tail⟩, hf⟩ : ∃ r, takeFraction cs₂ = r := ⟨_, rfl⟩
    rw [read?_of_parts hs hw hf] at h
    split at h
    next => cases h
    next hne =>
      obtain ⟨e, he, rfl⟩ := Option.map_eq_some_iff.mp h
      obtain ⟨sign, hsign, rfl⟩ := exists_sign hs
      obtain ⟨rfl, hwhole⟩ := spanDigits_inverts hw
      obtain ⟨mantissa, hm, hcs⟩ := isMantissa_of_parts hwhole (takeFraction_inverts hf) hne
      have hcs' : sign ++ (whole ++ cs₂) = sign ++ mantissa ++ tail := by rw [hcs, List.append_assoc]
      exact ⟨⟨negative, whole, fraction, e⟩,
        ⟨sign, mantissa, tail, hsign, hm, exponent?_eq_some_iff.mp he, hcs'⟩, rfl⟩
  · rintro ⟨l, h, rfl⟩
    exact read?_of_isSpelt h

end Decimal

end PaymentUri.Text
