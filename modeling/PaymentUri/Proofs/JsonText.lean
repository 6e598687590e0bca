import PaymentUri.Json.Read
import PaymentUri.Json.Write
import PaymentUri.Proofs.IntegerText
import PaymentUri.Proofs.PlainAmount

namespace PaymentUri.Json

variable {c : Char} {cs ds : List Char} {units : List Nat} {s t u : Pending × State} {st st' : State}
  {stack : List Frame} {acc : List (Value × Value)} {k : String} {v : Value} {n : Nat} {maxDepth : Nat}

def Runs (maxDepth : Nat) (s : Pending × State) (cs : List Char) (t : Pending × State) : Prop :=
  cs.foldlM (advance maxDepth) s = .ok t

theorem Runs.foldlM (h : Runs maxDepth s cs t) (rest : List Char) :
    (cs ++ rest).foldlM (advance maxDepth) s = rest.foldlM (advance maxDepth) t := by
  rw [List.foldlM_append, h]
  rfl

theorem Runs.append (h : Runs maxDepth s cs t) (h' : Runs maxDepth t ds u) : Runs maxDepth s (cs ++ ds) u :=
  (h.foldlM ds).trans h'

theorem Runs.nil (s : Pending × State) : Runs maxDepth s [] s := rfl

theorem Runs.cons (h : advance maxDepth s c = .ok t) (h' : Runs maxDepth t cs u) : Runs maxDepth s (c :: cs) u := by
  rw [Runs, List.foldlM_cons, h]
  exact h'

theorem advance_of_feed {p q : Pending} (h : feed p c = some (q, [])) : advance maxDepth (p, st) c = .ok (q, st) := by
  rw [advance, h]
  rfl

theorem advance_of_token {p q : Pending} {token : Token} (h : feed p c = some (q, [token]))
    (hstep : step maxDepth st token = .ok st') : advance maxDepth (p, st) c = .ok (q, st') := by
  rw [advance, h]
  dsimp only
  rw [List.foldlM_cons, hstep]
  rfl

theorem runs_spaces (h : ∀ c ∈ cs, isSpace c = true) : Runs maxDepth (.nothing, st) cs (.nothing, st) := by
  induction cs with
  | nil => exact .nil _
  | cons c cs ih =>
      rw [List.forall_mem_cons] at h
      refine .cons (advance_of_feed ?_) (ih h.2)
      rw [feed, enter, if_pos h.1]

theorem toList_newline (level : Nat) : (newline level).toList = '\n' :: List.replicate (2 * level) ' ' := by
  simp [newline]

theorem runs_newline (level : Nat) : Runs maxDepth (.nothing, st) (newline level).toList (.nothing, st) := by
  apply runs_spaces
  rw [toList_newline, List.forall_mem_cons]
  refine ⟨rfl, ?_⟩
  intro c hc
  rw [List.eq_of_mem_replicate hc]
  rfl

theorem runs_digits (hlength : cs.length = 4) (h : Text.hexNumber? cs = some n) :
    Runs maxDepth (.digits units [], st) cs (.text (n :: units), st) := by
  match cs, hlength with
  | [a, b, c, d], _ =>
      have hlast : feed (.digits units [c, b, a]) d = some (.text (n :: units), []) := by
        change (Text.hexNumber? [a, b, c, d]).map _ = _
        rw [h]
        rfl
      exact .cons rfl (.cons rfl (.cons rfl (.cons (advance_of_feed hlast) (.nil _))))

theorem hexNumber?_paddedHex (h : n < 0x20) :
    (Text.paddedHex 4 n).length = 4 ∧ Text.hexNumber? (Text.paddedHex 4 n) = some n := by
  revert n
  decide +kernel

theorem runs_charText (c : Char) :
    Runs maxDepth (.text units, st) (charText false c) (.text (c.toNat :: units), st) := by
  rw [charText.eq_def]
  split
  iterate 7 rfl
  next hquote hslash _ _ _ _ _ =>
    rw [Bool.false_and, Bool.or_false]
    split
    next hlow =>
      have hlow : c.toNat < 0x20 := of_decide_eq_true hlow
      obtain ⟨hlength, hnumber⟩ := hexNumber?_paddedHex hlow
      rw [charEscape, if_pos (by omega)]
      exact .cons rfl (.cons rfl (runs_digits hlength hnumber))
    next hhigh =>
      refine .cons (advance_of_feed ?_) (.nil _)
      rw [feed, if_neg hquote, if_neg hslash, if_neg (by simpa using hhigh)]

theorem runs_charTexts (cs : List Char) :
    Runs maxDepth (.text units, st) (cs.flatMap (charText false)) (.text ((cs.map Char.toNat).reverse ++ units), st) := by
  induction cs generalizing units with
  | nil => exact .nil _
  | cons c cs ih =>
      rw [List.flatMap_cons, List.map_cons, List.reverse_cons, List.append_assoc]
      exact (runs_charText c).append ih

theorem not_half (c : Char) : ¬(0xD800 ≤ c.toNat ∧ c.toNat < 0xE000) := by
  have hvalid : c.toNat < 0xD800 ∨ 0xDFFF < c.toNat ∧ c.toNat < 0x110000 := c.valid
  omega

theorem ofUnits_toNat (cs : List Char) : ofUnits (cs.map Char.toNat) = cs := by
  induction cs with
  | nil => rfl
  | cons c cs ih =>
      cases cs with
      | nil =>
          change [_] = [_]
          rw [if_neg (not_half c), Char.ofNat_toNat]
      | cons d cs =>
          have hpair : ¬(0xD800 ≤ c.toNat ∧ c.toNat < 0xDC00 ∧ 0xDC00 ≤ d.toNat ∧ d.toNat < 0xE000) := by
            have := not_half c
            omega
          rw [List.map_cons, List.map_cons, ofUnits, if_neg hpair, if_neg (not_half c), Char.ofNat_toNat,
            ← List.map_cons, ih]

theorem runs_quoted (s : String) (h : step maxDepth st (.value (.text s)) = .ok st') :
    Runs maxDepth (.nothing, st) (quoted false s).toList (.nothing, st') := by
  rw [quoted, String.toList_ofList]
  refine .cons (t := (.text [], st)) rfl ((runs_charTexts s.toList).append (.cons (advance_of_token ?_ h) (.nil _)))
  rw [feed, if_pos rfl, List.append_nil, List.reverse_reverse, ofUnits_toNat, String.ofList_toList]

def IsEnd (c : Char) : Prop := c = ',' ∨ c = '\n'

/-- Characters in front of such a character, which have the same effect as the value that they denote. -/
def Denotes (maxDepth depth : Nat) (cs : List Char) (v : Value) : Prop :=
  ∀ stack c rest, stack.length + depth ≤ maxDepth → IsEnd c →
    (cs ++ c :: rest).foldlM (advance maxDepth) (.nothing, .value stack) =
      (c :: rest).foldlM (advance maxDepth) (.nothing, .done v stack)

theorem denotes_of_runs (h : ∀ stack, stack.length + n ≤ maxDepth →
    Runs maxDepth (.nothing, .value stack) cs (.nothing, .done v stack)) : Denotes maxDepth n cs v :=
  fun stack _ _ hdepth _ => (h stack hdepth).foldlM _

theorem denotes_quoted (n : Nat) (s : String) : Denotes maxDepth n (quoted false s).toList (.text s) :=
  denotes_of_runs fun _ _ => runs_quoted s rfl

def isWordChar (c : Char) : Bool := !(isSpace c || c = '"' || (punctuation? c).isSome)

theorem runs_word (h : ∀ c ∈ cs, isWordChar c = true) :
    Runs maxDepth (.word ds, st) cs (.word (cs.reverse ++ ds), st) := by
  induction cs generalizing ds with
  | nil => exact .nil _
  | cons c cs ih =>
      rw [List.forall_mem_cons] at h
      rw [List.reverse_cons, List.append_assoc]
      refine .cons (advance_of_feed ?_) (ih h.2)
      have hc := h.1
      rw [isWordChar, Bool.not_eq_true'] at hc
      rw [feed, hc]
      rfl

theorem enter_of_isWordChar (h : isWordChar c = true) : enter c = (.word [c], []) := by
  simp only [isWordChar, Bool.not_eq_true', Bool.or_eq_false_iff, decide_eq_false_iff_not] at h
  obtain ⟨⟨hspace, hquote⟩, hpunctuation⟩ := h
  have hnone : punctuation? c = none := Option.isNone_iff_eq_none.mp (Option.isSome_eq_false_iff.mp hpunctuation)
  rw [enter, hspace, if_neg Bool.false_ne_true, if_neg hquote, hnone]

theorem feed_word_end (hc : IsEnd c) (hv : word? cs.reverse = some v) :
    feed (.word cs) c = some ((enter c).1, .value v :: (enter c).2) := by
  have hleave : feed (.word cs) c = leaveWord cs c ∧ c ≠ '"' := by
    rcases hc with rfl | rfl <;> exact ⟨rfl, by decide⟩
  rw [hleave.1, leaveWord, if_neg hleave.2, endWord, hv]
  rfl

theorem advance_word_end (hc : IsEnd c) (hv : word? cs.reverse = some v) :
    advance maxDepth (.word cs, .value stack) c = advance maxDepth (.nothing, .done v stack) c := by
  rw [advance, feed_word_end hc hv]
  rfl

theorem denotes_word (hne : cs ≠ []) (h : ∀ c ∈ cs, isWordChar c = true) (hv : word? cs = some v) :
    Denotes maxDepth n cs v := by
  intro stack c rest _ hc
  obtain ⟨d, ds, rfl⟩ := List.exists_cons_of_ne_nil hne
  rw [List.forall_mem_cons] at h
  have hword : Runs maxDepth (.nothing, .value stack) (d :: ds) (.word (d :: ds).reverse, .value stack) := by
    rw [List.reverse_cons]
    exact .cons (advance_of_feed (congrArg some (enter_of_isWordChar h.1))) (runs_word h.2)
  rw [hword.foldlM, List.foldlM_cons, List.foldlM_cons]
  rw [advance_word_end hc (by rwa [List.reverse_reverse])]

theorem denotes_null (n : Nat) : Denotes maxDepth n ['n', 'u', 'l', 'l'] .null :=
  denotes_word (by decide) (List.all_eq_true.mp rfl) rfl

theorem word?_eq_number? (h : ∀ c ∈ cs, c.isDigit = true ∨ c = '-') : word? cs = number? cs := by
  have hname : ∀ w ∈ ["null", "true", "false", "NaN", "Infinity", "-Infinity"], String.ofList cs ≠ w := by
    rintro w hw rfl
    have hall : ∀ w ∈ ["null", "true", "false", "NaN", "Infinity", "-Infinity"],
        w.toList.all (fun c => c.isDigit || c == '-') = false := by decide
    refine Bool.eq_false_iff.mp (hall _ hw) (List.all_eq_true.mpr ?_)
    rw [String.toList_ofList]
    simpa using h
  -- the words with a meaning of their own all have a letter
  rw [word?.eq_def]
  split
  iterate 6 next hs => exact absurd hs (hname _ (by decide))
  next => rfl

theorem isWhole_of_isWhole (h : Amount.IsWhole cs) : isWhole cs = true := by
  cases h with
  | zero => rfl
  | digits d ds hd hne hds => simpa [isWhole, hd, hne] using hds

theorem isDigit_of_isWhole (h : Amount.IsWhole cs) : ∀ c ∈ cs, c.isDigit = true := by
  cases h with
  | zero => exact List.forall_mem_singleton.mpr rfl
  | digits d ds hd hne hds => exact List.forall_mem_cons.mpr ⟨hd, hds⟩

theorem number?_signed (negative : Bool) (h : Amount.IsWhole cs) (hlength : cs.length ≤ Text.maxDigits) :
    number? (Text.signed negative cs) =
      some (.int (if negative then -Int.ofNat (Text.ofDigits cs) else Int.ofNat (Text.ofDigits cs))) := by
  have hdigits := isDigit_of_isWhole h
  have hspan := Text.spanDigits_append hdigits [] (by simp)
  rw [List.append_nil] at hspan
  cases negative with
  | true =>
      rw [Text.signed, if_pos rfl, number?, hspan]
      dsimp only
      rw [isWhole_of_isWhole h, if_neg (by decide), if_pos rfl, if_pos hlength]
  | false =>
      rw [Text.signed, if_neg Bool.false_ne_true, number?, hspan]
      · dsimp only
        rw [isWhole_of_isWhole h, if_neg (by decide), if_pos rfl, if_pos hlength]
      · rintro ds rfl
        exact absurd (hdigits '-' List.mem_cons_self) (by decide)

theorem word?_toString {m : Int} (h : Text.isWritable m = true) :
    word? (toString m).toList = some (.int m) := by
  have hwhole := Amount.isWhole_toDigits m.natAbs
  rw [Text.toList_toString, word?_eq_number? (Text.isDigit_of_mem_signed (isDigit_of_isWhole hwhole)),
    number?_signed _ hwhole (Text.digitCount_le_of_isWritable h), Text.ofDigits_toDigits, Text.signed_natAbs]

theorem isWordChar_of_isDigit (h : c.isDigit = true) : isWordChar c = true :=
  Text.forall_isDigit (P := (isWordChar · = true)) (by decide) h

theorem denotes_int {m : Int} (n : Nat) (h : Text.isWritable m = true) :
    Denotes maxDepth n (toString m).toList (.int m) := by
  have hchars : ∀ c ∈ (toString m).toList, c.isDigit = true ∨ c = '-' := by
    rw [Text.toList_toString]
    exact Text.isDigit_of_mem_signed (isDigit_of_isWhole (Amount.isWhole_toDigits m.natAbs))
  refine denotes_word ?_ ?_ (word?_toString h)
  · intro hnil
    have hvalue := word?_toString h
    rw [hnil] at hvalue
    cases hvalue
  · intro c hc
    rcases hchars c hc with hc | rfl
    · exact isWordChar_of_isDigit hc
    · rfl

def keyed (e : String × Value) : Value × Value := (.text e.1, e.2)

theorem insertEntry_of_not_mem {es : List (String × Value)} (h : k ∉ es.map Prod.fst) :
    Value.insertEntry (.text k) v (es.map keyed) = es.map keyed ++ [(.text k, v)] := by
  induction es with
  | nil => rfl
  | cons e es ih =>
      rw [List.map_cons, List.mem_cons, not_or] at h
      have hkey : (keyed e).1.isSameKey (.text k) = false := beq_false_of_ne (Ne.symm h.1)
      rw [List.map_cons, Value.insertEntry, hkey, if_neg Bool.false_ne_true, ih h.2]
      rfl

theorem ofEntries_keyed {es : List (String × Value)} (h : (es.map Prod.fst).Nodup) :
    Value.ofEntries (es.map keyed) = .map (es.map keyed) := by
  induction es using List.reverseRecOn with
  | nil => rfl
  | append_singleton es e ih =>
      rw [List.map_append, List.nodup_append] at h
      obtain ⟨hes, -, hdisjoint⟩ := h
      have he : e.1 ∉ es.map Prod.fst := fun hm => hdisjoint e.1 hm e.1 (List.mem_singleton.mpr rfl) rfl
      have hfold := Value.map.inj (ih hes)
      rw [List.map_append, Value.ofEntries, List.foldl_append, hfold]
      exact congrArg Value.map (insertEntry_of_not_mem he)

/-- The values that are printed: nulls, whole numbers, texts, and maps of them that lie in each other at
most as deep as the number says. -/
inductive Plain : Nat → Value → Prop
  | null (n : Nat) : Plain n .null
  | int (n : Nat) (m : Int) (h : Text.isWritable m = true) : Plain n (.int m)
  | text (n : Nat) (s : String) : Plain n (.text s)
  | map (n : Nat) (es : List (String × Value)) (hnodup : (es.map Prod.fst).Nodup)
      (h : ∀ e ∈ es, Plain n e.2) : Plain (n + 1) (.map (es.map keyed))

def line (level : Nat) (e : String × Value) : List Char :=
  (newline level).toList ++ ((quoted false e.1).toList ++ (':' :: ' ' :: (pretty false level e.2).toList))

theorem toList_prettyEntries (level : Nat) (es : List (String × Value)) :
    (prettyEntries false level (es.map keyed)).map String.toList = es.map (line level) := by
  induction es with
  | nil => rfl
  | cons e es ih =>
      rw [List.map_cons, List.map_cons, keyed, prettyEntries, List.map_cons, ih, line]
      simp [String.toList_append, keyText]

theorem foldlM_line {level : Nat} {e : String × Value} {first : Bool}
    (hv : Denotes maxDepth n (pretty false level e.2).toList e.2) (hdepth : stack.length + (n + 1) ≤ maxDepth)
    (hc : IsEnd c) (rest : List Char) :
    (line level e ++ c :: rest).foldlM (advance maxDepth) (.nothing, .key first acc stack) =
      (c :: rest).foldlM (advance maxDepth) (.nothing, .done e.2 (.entries acc e.1 :: stack)) := by
  have hkey : step maxDepth (.key first acc stack) (.value (.text e.1)) = .ok (.colon acc e.1 stack) := by
    cases first <;> cases acc <;> rfl
  have hcolon : Runs maxDepth (.nothing, .colon acc e.1 stack) [':', ' '] (.nothing, .value (.entries acc e.1 :: stack)) :=
    rfl
  rw [line, List.append_assoc, (runs_newline level).foldlM, List.append_assoc, (runs_quoted e.1 hkey).foldlM]
  refine (hcolon.foldlM _).trans (hv _ c rest ?_ hc)
  rw [List.length_cons]
  omega

theorem foldlM_lines {level outer : Nat} (es : List (String × Value)) (e : String × Value) {first : Bool}
    (h : ∀ f ∈ e :: es, Denotes maxDepth n (pretty false level f.2).toList f.2)
    (hdepth : stack.length + (n + 1) ≤ maxDepth) (rest : List Char) :
    ([','].intercalate ((e :: es).map (line level)) ++ ((newline outer).toList ++ '\x7d' :: rest)).foldlM
        (advance maxDepth) (.nothing, .key first acc stack) =
      rest.foldlM (advance maxDepth) (.nothing, .done (Value.ofEntries (acc.reverse ++ (e :: es).map keyed)) stack) := by
  -- `first` holds only of the line behind the brace: behind a comma the map may not end
  induction es generalizing e acc first with
  | nil =>
      have hclose : advance maxDepth (.nothing, .done e.2 (.entries acc e.1 :: stack)) '\x7d' =
        .ok (.nothing, .done (Value.ofEntries (keyed e :: acc).reverse) stack) := rfl
      rw [List.map_singleton, List.intercalate_singleton, toList_newline, List.cons_append,
        foldlM_line (h e List.mem_cons_self) hdepth (.inr rfl), ← List.cons_append, ← toList_newline,
        (runs_newline outer).foldlM, List.foldlM_cons, hclose, List.reverse_cons]
      rfl
  | cons f fs ih =>
      rw [List.forall_mem_cons] at h
      have hcomma : advance maxDepth (.nothing, .done e.2 (.entries acc e.1 :: stack)) ',' =
        .ok (.nothing, .key false (keyed e :: acc) stack) := rfl
      rw [List.map_cons, List.map_cons, List.intercalate_cons_cons, List.append_assoc, List.append_assoc,
        List.singleton_append, foldlM_line h.1 hdepth (.inl rfl), List.foldlM_cons, hcomma, ← List.map_cons]
      refine (ih f h.2).trans ?_
      rw [List.reverse_cons, List.append_assoc]
      rfl

theorem toList_pretty_map (level : Nat) (e : String × Value) (es : List (String × Value)) :
    (pretty false level (.map ((e :: es).map keyed))).toList =
      '\x7b' :: ([','].intercalate ((e :: es).map (line (level + 1))) ++ ((newline level).toList ++ ['\x7d'])) := by
  have hmap : pretty false level (.map ((e :: es).map keyed)) =
      "\x7b" ++ ",".intercalate (prettyEntries false (level + 1) ((e :: es).map keyed)) ++ newline level ++
        "\x7d" := by
    rw [pretty]
    exact List.cons_ne_nil _ _
  rw [hmap, String.toList_append, String.toList_append, String.toList_append, String.toList_intercalate,
    toList_prettyEntries]
  simp

theorem denotes_pretty (h : Plain n v) (level : Nat) : Denotes maxDepth n (pretty false level v).toList v := by
  induction h generalizing level with
  | null n =>
      have hnull : (pretty false level .null).toList = ['n', 'u', 'l', 'l'] := by simp [pretty, write]
      rw [hnull]
      exact denotes_null n
  | int n m hm => exact denotes_int n hm
  | text n s => exact denotes_quoted n s
  | map n es hnodup _ ih =>
      refine denotes_of_runs ?_
      intro stack hdepth
      have hopen : advance maxDepth (.nothing, .value stack) '\x7b' = .ok (.nothing, .key true [] stack) := by
        have hroom : stack.length < maxDepth := by omega
        have hstep : step maxDepth (.value stack) .openMap = .ok (.key true [] stack) := by
          rw [step, openMap, if_pos hroom]
        exact advance_of_token rfl hstep
      cases es with
      | nil =>
          have hempty : (pretty false level (.map [])).toList = ['\x7b', '\x7d'] := by simp [pretty]
          rw [List.map_nil, hempty]
          exact .cons hopen rfl
      | cons e es =>
          rw [toList_pretty_map]
          refine .cons hopen ?_
          refine (foldlM_lines es e (fun f hf => ih f hf (level + 1)) hdepth []).trans ?_
          rw [List.reverse_nil, List.nil_append, ofEntries_keyed hnodup]
          rfl

theorem read_pretty (h : Plain n v) (hn : n ≤ maxDepth) : read maxDepth (pretty false 0 v ++ "\n") = .ok v := by
  have hv := denotes_pretty h 0 [] '\n' [] (by simpa using hn) (.inr rfl)
  have hlast : ['\n'].foldlM (advance maxDepth) (.nothing, .done v []) = .ok (.nothing, .done v []) := rfl
  rw [read, String.toList_append]
  change (List.foldlM (advance maxDepth) _ (_ ++ ['\n']) >>= _) = _
  rw [hv, hlast]
  rfl

end PaymentUri.Json
