import PaymentUri.Proofs.CommandLine
import PaymentUri.Proofs.IntegerText
import PaymentUri.Proofs.Rendering
import PaymentUri.Proofs.Run

namespace PaymentUri

namespace Style

def name : Style → String
  | friendly => "friendly"
  | plain => "plain"

def write : Style → Int → String
  | friendly => Amount.friendly
  | plain => Amount.plain

end Style

namespace Arguments

open Text (IsDigits signed)

variable {d : Char} {cs ds : List Char} {arg : String} {rules : List Rule} {negative : Bool}

inductive IsNumber : List Char → Prop
  | whole (ds : List Char) (hd : IsDigits ds) : IsNumber ds
  | point (ds fs : List Char) (hd : IsDigits ds) (hf : IsDigits fs) : IsNumber (ds ++ '.' :: fs)

theorem IsNumber.exists_cons (h : IsNumber cs) : ∃ d ds, d.isDigit = true ∧ cs = d :: ds := by
  cases h with
  | whole ds hd => exact hd.exists_cons
  | point ds fs hd hf =>
      obtain ⟨d, ds, hdigit, rfl⟩ := hd.exists_cons
      exact ⟨d, _, hdigit, List.cons_append⟩

theorem IsNumber.isDigit_of_mem (h : IsNumber cs) : ∀ c ∈ cs, c.isDigit = true ∨ c = '.' := by
  intro c hc
  cases h with
  | whole ds hd => exact .inl (hd.2 c hc)
  | point ds fs hd hf =>
      rcases List.mem_append.mp hc with hc | hc
      · exact .inl (hd.2 c hc)
      · rcases List.mem_cons.mp hc with rfl | hc
        · exact .inr rfl
        · exact .inl (hf.2 c hc)

theorem IsNumber.not_mem_signed {c : Char} (h : IsNumber cs) (hdigit : c.isDigit = false) (hpoint : c ≠ '.')
    (hminus : c ≠ '-') : c ∉ signed negative cs := by
  have hbody : c ∉ cs := by
    intro hc
    rcases h.isDigit_of_mem c hc with hc | hc
    · exact Bool.false_ne_true (hdigit.symm.trans hc)
    · exact hpoint hc
  cases negative with
  | true => exact List.not_mem_cons_of_ne_of_not_mem hminus hbody
  | false => exact hbody

theorem all_isSome_digit? (h : IsDigits ds) :
    ds.all (fun c => (Text.digit? c).isSome) = true := by
  rw [List.all_eq_true]
  intro c hc
  rw [Text.digit?_of_isDigit (h.2 c hc)]
  rfl

theorem point_not_mem (h : IsDigits ds) : '.' ∉ ds := by
  intro hmem
  exact absurd (h.2 '.' hmem) (by decide)

theorem isNegativeNumber_of_isNumber (harg : arg.toList = '-' :: cs) (h : IsNumber cs) :
    isNegativeNumber arg = true := by
  have hbreak : ('-' :: cs).getLast? ≠ some '\n' := by
    intro hlast
    have hmem : '\n' ∈ signed true cs := List.mem_of_getLast? hlast
    exact h.not_mem_signed (by decide) (by decide) (by decide) hmem
  cases h with
  | whole ds hd =>
      have hcut := Text.cut?_eq_none_iff.mpr (point_not_mem hd)
      simp [isNegativeNumber, harg, hbreak, hcut, all_isSome_digit? hd, hd.1]
  | point ds fs hd hf =>
      have hcut := Text.cut?_append_cons (point_not_mem hd) fs
      simp [isNegativeNumber, harg, hbreak, hcut, all_isSome_digit? hd, all_isSome_digit? hf, hf.1]

def DigitFree (rules : List Rule) : Prop := ∀ r ∈ rules, (r.name.toList.drop 1).head?.all (!·.isDigit) = true

instance (rules : List Rule) : Decidable (DigitFree rules) := inferInstanceAs (Decidable (∀ _ ∈ _, _))

theorem DigitFree.name_ne (hrules : DigitFree rules) {r : Rule} (hr : r ∈ rules) (hd : d.isDigit = true) :
    r.name.toList ≠ '-' :: d :: ds := by
  intro hname
  have hfree := hrules r hr
  rw [hname] at hfree
  simp [hd] at hfree

theorem dash_ne (hd : d.isDigit = true) : '-' ≠ d := (Text.isDigit_ne hd (by decide)).symm

theorem DigitFree.find?_eq_none (hrules : DigitFree rules) (hd : d.isDigit = true)
    (harg : arg.toList = '-' :: d :: ds) : rules.find? (·.name == arg) = none := by
  rw [List.find?_eq_none]
  intro r hr hname
  apply hrules.name_ne hr hd
  rw [beq_iff_eq.mp hname, harg]

theorem DigitFree.candidates_eq_nil (hrules : DigitFree rules) (hd : d.isDigit = true)
    (harg : arg.toList = '-' :: d :: ds) : candidates rules arg = [] := by
  have hdashes : startsWith "--" arg = false := by simp [startsWith, harg, List.isPrefixOf, dash_ne hd]
  rw [candidates, hdashes, if_neg Bool.false_ne_true, List.map_eq_nil_iff, List.filter_eq_nil_iff]
  intro r hr hname
  apply hrules.name_ne hr hd
  rw [beq_iff_eq.mp hname, harg]
  rfl

theorem named?_eq_none (h : '=' ∉ arg.toList) : named? rules arg = none := by
  rw [named?, Text.cut?_eq_none_iff.mpr h]
  rfl

/-- What begins with a dash and a digit is a word only if all of it is a number, or if it has a space. -/
theorem kind_of_dash_digit (hrules : DigitFree rules) (hd : d.isDigit = true) (harg : arg.toList = '-' :: d :: ds)
    (hfree : '=' ∉ arg.toList) :
    kind rules arg = if isNegativeNumber arg || arg.toList.contains ' ' then .word else .unknown := by
  have hdash : ¬(!startsWith "-" arg || arg == "-") = true := by
    have hne : arg ≠ "-" := by
      rintro rfl
      simp at harg
    simp [startsWith, harg, List.isPrefixOf, hne]
  rw [kind, if_neg hdash, hrules.find?_eq_none hd harg, named?_eq_none hfree, hrules.candidates_eq_nil hd harg]

theorem kind_of_isNumber (hrules : DigitFree rules) (harg : arg.toList = signed negative cs) (h : IsNumber cs) :
    kind rules arg = .word := by
  obtain ⟨d, ds, hd, rfl⟩ := h.exists_cons
  cases negative with
  | false =>
      apply kind_of_not_dash
      rw [startsWith, harg]
      simp [signed, List.isPrefixOf, dash_ne hd]
  | true =>
      have hfree : '=' ∉ arg.toList := by
        rw [harg]
        exact h.not_mem_signed (by decide) (by decide) (by decide)
      rw [kind_of_dash_digit hrules hd harg hfree, isNegativeNumber_of_isNumber harg h]
      rfl

theorem ne_dashes_of_isNumber (harg : arg.toList = signed negative cs) (h : IsNumber cs) : arg ≠ "--" := by
  obtain ⟨d, ds, hd, rfl⟩ := h.exists_cons
  rintro rfl
  cases negative <;> simp [signed, dash_ne hd] at harg

def formatRules : List Rule := helpRules ++ [option "--style" ["friendly", "plain"]]

theorem readNamed_format (takesDashes : Bool) (style : Style) (hdashes : arg ≠ "--")
    (hkind : kind formatRules arg = .word) :
    readNamed takesDashes "format" [arg, "--style", style.name] = .ok (.format arg style) := by
  have hcommand : readCommand takesDashes [option "--style" ["friendly", "plain"]] [arg, "--style", style.name] =
      .ok (arg, [(option "--style" ["friendly", "plain"], .text style.name)]) := by
    rw [readCommand]
    change takeUntil takesDashes false formatRules {} _ >>= _ = _
    rw [takeUntil_word hdashes hkind rfl (by simp)]
    cases style <;> rfl
  rw [readNamed, hcommand]
  cases style <;> rfl

theorem readNamed_toUnits (takesDashes : Bool) (hdashes : arg ≠ "--") (hkind : kind helpRules arg = .word) :
    readNamed takesDashes "to-units" [arg] = .ok (.toUnits arg) := by
  rw [readNamed, readCommand, List.append_nil, takeUntil_word hdashes hkind rfl (by simp), takeUntil]
  rfl

theorem read_format (takesDashes : Bool) (style : Style) (harg : arg.toList = signed negative cs) (h : IsNumber cs) :
    read takesDashes ["format", arg, "--style", style.name] = .ok ⟨none, none, false, .format arg style⟩ := by
  have hglobal : ∀ word ∈ [arg, "--style", style.name], kind globalRules word ≠ .ambiguous := by
    rw [List.forall_mem_cons, kind_of_isNumber (by decide) harg h]
    exact ⟨nofun, by cases style <;> decide⟩
  exact read_of_readNamed (by decide) {} hglobal
    (readNamed_format takesDashes style (ne_dashes_of_isNumber harg h) (kind_of_isNumber (by decide) harg h))

theorem read_toUnits (takesDashes : Bool) (harg : arg.toList = signed negative cs) (h : IsNumber cs) :
    read takesDashes ["to-units", arg] = .ok ⟨none, none, false, .toUnits arg⟩ := by
  have hglobal : ∀ word ∈ [arg], kind globalRules word ≠ .ambiguous := by
    rw [List.forall_mem_singleton, kind_of_isNumber (by decide) harg h]
    nofun
  exact read_of_readNamed (by decide) {} hglobal
    (readNamed_toUnits takesDashes (ne_dashes_of_isNumber harg h) (kind_of_isNumber (by decide) harg h))

end Arguments

namespace Amount

open Arguments (IsNumber)

theorem exists_isNumber_write (style : Style) (n : Int) :
    ∃ cs, IsNumber cs ∧ (style.write n).toList = Text.signed (decide (n < 0)) cs := by
  have hwhole := Text.isDigits_toDigits (n.natAbs / coin)
  cases style with
  | friendly => exact ⟨_, .point _ _ hwhole ⟨cents_ne_nil n, (isRest_cents n).isDigit⟩, toList_friendly n⟩
  | plain =>
      refine ⟨_, ?_, toList_plain n⟩
      split
      next =>
        rw [List.append_nil]
        exact .whole _ hwhole
      next hne => exact .point _ _ hwhole ⟨hne, (isRest_fractionText n).isDigit⟩

theorem parse_write (style : Style) {n : Int} (h : n.natAbs < 10 ^ maxUnitDigits) : parse (style.write n) = .ok n := by
  cases style with
  | friendly => exact parse_friendly h
  | plain => exact parse_plain h

end Amount

theorem outcome_of_read {s : Session} {argv : List String} {c : Command} {out : Output}
    (h : ∀ takesDashes, Arguments.read takesDashes argv = .ok ⟨none, none, false, c⟩)
    (hrun : ∀ s, (Command.run s none c).outcome = .ok out) : (runCommandLine s argv).1.outcome = .ok out := by
  have hread : Arguments.read s.platform.takesDashes argv =
    .ok { (⟨none, none, false, c⟩ : Arguments) with command := c } := h _
  rw [runCommandLine_of_read hread (Session.enter_of_none rfl)]
  exact Command.outcome_recover_of_ok (hrun _)

/-- An amount that is formatted on the command line is one line, which is converted back to the amount there. Neither
of them is taken for an option. -/
theorem format_toUnits_inverse (s later : Session) (n : Int) (style : Style) (h : n.natAbs < 10 ^ 40) :
    '\n' ∉ (style.write n).toList ∧
      (∀ takesDashes, Arguments.read takesDashes ["format", toString n, "--style", style.name] =
        .ok ⟨none, none, false, .format (toString n) style⟩) ∧
      (runCommandLine s ["format", toString n, "--style", style.name]).1.outcome =
        .ok { exit := 0, stdout := style.write n ++ "\n" } ∧
      (∀ takesDashes, Arguments.read takesDashes ["to-units", style.write n] =
        .ok ⟨none, none, false, .toUnits (style.write n)⟩) ∧
      (runCommandLine later ["to-units", style.write n]).1.outcome =
        .ok { exit := 0, stdout := toString n ++ "\n" } := by
  obtain ⟨cs, hnumber, htext⟩ := Amount.exists_isNumber_write style n
  have hunits : Arguments.IsNumber (Nat.toDigits 10 n.natAbs) := .whole _ (Text.isDigits_toDigits n.natAbs)
  have hformat := fun takesDashes => Arguments.read_format takesDashes style (Text.toList_toString n) hunits
  have htoUnits := fun takesDashes => Arguments.read_toUnits takesDashes htext hnumber
  refine ⟨?_, hformat, outcome_of_read hformat fun s => ?_, htoUnits, outcome_of_read htoUnits fun s => ?_⟩
  · rw [htext]
    exact hnumber.not_mem_signed (by decide) (by decide) (by decide)
  · change Command.runFormat (toString n) style = _
    rw [Command.runFormat, Text.integer?_toString (Text.isWritable_of_lt (by decide) h)]
    cases style <;> rfl
  · change Command.runToUnits (style.write n) = _
    rw [Command.runToUnits, Amount.parse_write style h]

theorem format_toUnits_inverse_sample :
    (-5 : Int).natAbs < 10 ^ 40 ∧
      (runCommandLine { defaultPath := "default.yaml" } ["format", "-5", "--style", "friendly"]).1.outcome =
        .ok { exit := 0, stdout := "-0.00000005\n" } ∧
      (runCommandLine { defaultPath := "default.yaml" } ["to-units", "-0.00000005"]).1.outcome =
        .ok { exit := 0, stdout := "-5\n" } := by
  have hsmall : (-5 : Int).natAbs < 10 ^ 40 := by decide
  have hwritten : Style.friendly.write (-5) = "-0.00000005" := by decide +kernel
  obtain ⟨-, -, hformat, -, hconvert⟩ := format_toUnits_inverse { defaultPath := "default.yaml" }
    { defaultPath := "default.yaml" } (-5) .friendly hsmall
  rw [hwritten] at hformat hconvert
  exact ⟨hsmall, hformat, hconvert⟩

end PaymentUri
