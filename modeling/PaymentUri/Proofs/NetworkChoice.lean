import Mathlib.Data.List.Forall2
import PaymentUri.Proofs.ConfigFaults
import PaymentUri.Proofs.IntegerText
import PaymentUri.Proofs.Precedence
import PaymentUri.Proofs.Run

namespace PaymentUri

namespace Text

variable {p : Char → Bool} {c l : Char} {cs core before behind letters : List Char} {s word : String}

/-- A word in letters of any case, with blanks around it. -/
def ReadsAs (s word : String) : Prop :=
  ∃ before core behind, s.toList = before ++ core ++ behind ∧ (∀ c ∈ before, isBlank c = true) ∧
    (∀ c ∈ behind, isBlank c = true) ∧ List.Forall₂ (fun c l => c = l ∨ c = l.toUpper) core word.toList

theorem exists_trim (p : Char → Bool) (cs : List Char) :
    ∃ before behind, cs = before ++ trim p cs ++ behind ∧ (∀ c ∈ before, p c = true) ∧ ∀ c ∈ behind, p c = true := by
  refine ⟨cs.takeWhile p, ((cs.dropWhile p).reverse.takeWhile p).reverse, ?_, fun c => List.mem_takeWhile_imp, ?_⟩
  · rw [trim, List.append_assoc, ← List.reverse_append, List.takeWhile_append_dropWhile, List.reverse_reverse,
      List.takeWhile_append_dropWhile]
  · intro c hc
    exact List.mem_takeWhile_imp (List.mem_reverse.mp hc)

theorem dropWhile_append_of_forall (hbefore : ∀ c ∈ before, p c = true) (hcs : ∀ c ∈ cs.head?, p c = false) :
    (before ++ cs).dropWhile p = cs := by
  rw [List.dropWhile_append_of_pos hbefore]
  cases cs with
  | nil => rfl
  | cons c cs => exact List.dropWhile_cons_of_neg (Bool.eq_false_iff.mp (hcs c rfl))

theorem trim_append (hbefore : ∀ c ∈ before, p c = true) (hcore : ∀ c ∈ core, p c = false)
    (hbehind : ∀ c ∈ behind, p c = true) : trim p (before ++ core ++ behind) = core := by
  by_cases hnil : core = []
  · subst hnil
    have hall : ∀ c ∈ before ++ [] ++ behind, p c = true := by
      simpa [or_imp, forall_and] using And.intro hbefore hbehind
    rw [trim, List.dropWhile_eq_nil_iff.mpr hall]
    rfl
  · have hhead : ∀ c ∈ (core ++ behind).head?, p c = false := by
      intro c hc
      rw [List.head?_append_of_ne_nil _ hnil] at hc
      exact hcore c (List.mem_of_mem_head? hc)
    have hlast : ∀ c ∈ core.reverse.head?, p c = false := fun c hc =>
      hcore c (List.mem_reverse.mp (List.mem_of_mem_head? hc))
    have hreverse : ∀ c ∈ behind.reverse, p c = true := fun c hc => hbehind c (List.mem_reverse.mp hc)
    rw [trim, List.append_assoc, dropWhile_append_of_forall hbefore hhead, List.reverse_append,
      dropWhile_append_of_forall hreverse hlast, List.reverse_reverse]

theorem toLower_of_upper (h : 'A'.val ≤ c.val ∧ c.val ≤ 'Z'.val) :
    c.toLower.val = c.val + ('a'.val - 'A'.val) := by
  have hlower : c.toLower = _ := dif_pos h
  rw [hlower]

theorem toLower_of_not_upper (h : ¬('A'.val ≤ c.val ∧ c.val ≤ 'Z'.val)) : c.toLower = c := dif_neg h

theorem toUpper_of_lower (h : 'a'.val ≤ l.val ∧ l.val ≤ 'z'.val) :
    l.toUpper.val = l.val + ('A'.val - 'a'.val) := by
  have hupper : l.toUpper = _ := dif_pos h
  rw [hupper]

theorem bounds_of_isLower (h : l.isLower = true) : 'a'.val ≤ l.val ∧ l.val ≤ 'z'.val :=
  (Bool.and_eq_true_iff.mp h).imp of_decide_eq_true of_decide_eq_true

theorem toLower_eq_iff (h : l.isLower = true) : c.toLower = l ↔ c = l ∨ c = l.toUpper := by
  have hl := bounds_of_isLower h
  have hupper := toUpper_of_lower hl
  by_cases hc : 'A'.val ≤ c.val ∧ c.val ≤ 'Z'.val
  · have hne : c.val ≠ l.val := fun hsame => absurd (UInt32.le_trans hl.1 (hsame ▸ hc.2)) (by decide)
    rw [Char.ext_iff, Char.ext_iff, Char.ext_iff, or_iff_right hne, toLower_of_upper hc, hupper]
    exact ⟨fun hsum => by simp [← hsum, UInt32.add_assoc], fun hsum => by simp [hsum, UInt32.add_assoc]⟩
  · have hne : c ≠ l.toUpper := by
      rintro rfl
      refine hc ?_
      have ha : 'a'.val.toNat = 97 := rfl
      have hz : 'z'.val.toNat = 122 := rfl
      have hA : 'A'.val.toNat = 65 := rfl
      have hZ : 'Z'.val.toNat = 90 := rfl
      have hshift : ('A'.val - 'a'.val).toNat = 2 ^ 32 - 32 := rfl
      rw [hupper]
      simp only [UInt32.le_iff_toNat_le, UInt32.toNat_add] at hl ⊢
      omega
    rw [toLower_of_not_upper hc, or_iff_left hne]

theorem forall₂_toLower_iff (h : ∀ l ∈ letters, l.isLower = true) :
    List.Forall₂ (fun c l => c = l ∨ c = l.toUpper) cs letters ↔ cs.map Char.toLower = letters := by
  induction letters generalizing cs with
  | nil => simp
  | cons l letters ih =>
      obtain ⟨hl, hletters⟩ := List.forall_mem_cons.mp h
      cases cs with
      | nil => simp
      | cons c cs => rw [List.forall₂_cons, ih hletters, ← toLower_eq_iff hl, List.map_cons, List.cons.injEq]

theorem isBlank_eq_false (h : c.toLower.isLower = true) : isBlank c = false := by
  have hbounds : 65 ≤ c.toNat ∧ c.toNat ≤ 122 := by
    by_cases hc : 'A'.val ≤ c.val ∧ c.val ≤ 'Z'.val
    · exact ⟨UInt32.le_iff_toNat_le.mp hc.1, Nat.le_trans (UInt32.le_iff_toNat_le.mp hc.2) (by decide)⟩
    · rw [toLower_of_not_upper hc] at h
      obtain ⟨hlow, hhigh⟩ := bounds_of_isLower h
      exact ⟨Nat.le_trans (by decide) (UInt32.le_iff_toNat_le.mp hlow), UInt32.le_iff_toNat_le.mp hhigh⟩
  rw [← Bool.not_eq_true]
  simp only [isBlank, isWhite, Bool.or_eq_true, Bool.and_eq_true, decide_eq_true_eq, List.contains_eq_mem,
    List.mem_cons, List.not_mem_nil, or_false]
  omega

theorem lowerAscii_strip_eq_iff (h : ∀ l ∈ word.toList, l.isLower = true) :
    lowerAscii (strip s) = word ↔ ReadsAs s word := by
  have htext : lowerAscii (strip s) = word ↔ (trim isBlank s.toList).map Char.toLower = word.toList := by
    rw [lowerAscii, strip, String.toList_ofList, ← String.toList_inj, String.toList_ofList]
  rw [htext]
  constructor
  · intro htrim
    obtain ⟨before, behind, hs, hbefore, hbehind⟩ := exists_trim isBlank s.toList
    exact ⟨before, _, behind, hs, hbefore, hbehind, (forall₂_toLower_iff h).mpr htrim⟩
  · rintro ⟨before, core, behind, hs, hbefore, hbehind, hcore⟩
    rw [forall₂_toLower_iff h] at hcore
    have hfree : ∀ c ∈ core, isBlank c = false := fun c hc =>
      isBlank_eq_false (h _ (hcore ▸ List.mem_map_of_mem hc))
    rw [hs, trim_append hbefore hfree hbehind, hcore]

end Text

namespace Network

def spellings : List (String × Network) :=
  [("mainnet", mainnet), ("main", mainnet), ("prod", mainnet), ("production", mainnet), ("testnet", testnet),
    ("test", testnet)]

def IsNamedBy (network : Network) (text : String) : Prop := ∃ word, (word, network) ∈ spellings ∧ Text.ReadsAs text word

variable {network : Network} {text : String}

theorem ofName?_eq_some_iff_mem :
    ofName? text = some network ↔ (Text.lowerAscii (Text.strip text), network) ∈ spellings := by
  rw [ofName?]
  generalize Text.lowerAscii (Text.strip text) = word
  by_cases hword : word ∈ spellings.map Prod.fst
  · simp only [spellings, List.map_cons, List.map_nil, List.mem_cons, List.not_mem_nil, or_false] at hword
    rcases hword with rfl | rfl | rfl | rfl | rfl | rfl
    all_goals simp [spellings, expandName, known, mainnet, testnet, eq_comm]
  · simp only [spellings, List.map_cons, List.map_nil, List.mem_cons, List.not_mem_nil, or_false, not_or] at hword
    obtain ⟨hmainnet, hmain, hprod, hproduction, htestnet, htest⟩ := hword
    have hexpand : expandName word = word := by simp [expandName, hmain, hprod, hproduction, htest]
    have hnone : known.find? (·.name == word) = none := by
      simp [known, mainnet, testnet, Ne.symm hmainnet, Ne.symm htestnet]
    rw [hexpand, hnone]
    simp [spellings, hmainnet, hmain, hprod, hproduction, htestnet, htest]

theorem ofName?_eq_some_iff : ofName? text = some network ↔ network.IsNamedBy text := by
  have hall : spellings.all (fun entry => entry.1.toList.all Char.isLower) = true := by decide +kernel
  have hletters : ∀ entry ∈ spellings, ∀ l ∈ entry.1.toList, l.isLower = true := fun entry hentry =>
    List.all_eq_true.mp (List.all_eq_true.mp hall entry hentry)
  rw [ofName?_eq_some_iff_mem]
  constructor
  · intro h
    exact ⟨_, h, (Text.lowerAscii_strip_eq_iff (hletters _ h)).mp rfl⟩
  · rintro ⟨word, hmem, hreads⟩
    rw [(Text.lowerAscii_strip_eq_iff (hletters _ hmem)).mpr hreads]
    exact hmem

end Network

namespace Settings

variable {override file x : Value} {env : Environment} {path : String} {network : Network}

/-- The highest source that is not null decides. An empty text is a value like any other. -/
inductive Decides (override : Value) (env : Environment) (file : Value) : Value → Prop where
  | override (h : override ≠ .null) : Decides override env file override
  | environment {text : String} (h : override = .null) (hset : env.lookup "DGB_NETWORK" = some text) :
      Decides override env file (.text text)
  | file (h : override = .null) (hunset : env.lookup "DGB_NETWORK" = none) (hfile : file.field "network" ≠ .null) :
      Decides override env file (file.field "network")

structure Silent (override : Value) (env : Environment) (file : Value) : Prop where
  override : override = .null
  environment : env.lookup "DGB_NETWORK" = none
  file : file.field "network" = .null

def decision (path : String) : Value → Except SettingsFault Network
  | .text name => (Network.ofName? name).elim (.error (.config (.unknownNetwork name))) .ok
  | _ => .error (.config (.networkNotText path))

theorem Decides.first_eq (h : Decides override env file x) :
    first [override, environmentValue env "DGB_NETWORK", file.field "network"] = x := by
  cases h with
  | override h => exact first_of_ne_null h _
  | environment h hset =>
      rw [h, first_null, environmentValue, hset]
      rfl
  | file h hunset =>
      rw [h, first_null, environmentValue, hunset]
      exact first_singleton _

theorem Decides.ne_null (h : Decides override env file x) : x ≠ .null := by
  cases h with
  | override h => exact h
  | environment =>
      intro hnull
      cases hnull
  | file _ _ h => exact h

theorem network_of_decides (h : Decides override env file x) :
    Settings.network override env path file = decision path x := by
  rw [Settings.network, h.first_eq]
  have hne := h.ne_null
  cases x with
  | null => exact absurd rfl hne
  | text name =>
      dsimp only [decision]
      cases Network.ofName? name <;> rfl
  | _ => rfl

theorem network_of_silent (h : Silent override env file) : Settings.network override env path file = .ok .mainnet := by
  rw [Settings.network, h.override, environmentValue, h.environment, h.file]
  rfl

theorem decision_eq_ok_iff : decision path x = .ok network ↔ ∃ name, x = .text name ∧ network.IsNamedBy name := by
  cases x with
  | text name =>
      simp only [Value.text.injEq, exists_eq_left', ← Network.ofName?_eq_some_iff, decision]
      cases Network.ofName? name <;> simp
  | _ => simp [decision]

theorem exists_decision_error (h : ∀ network, decision path x ≠ .ok network) :
    ∃ fault, decision path x = .error (.config fault) := by
  cases x with
  | text name =>
      cases hname : Network.ofName? name with
      | none => exact ⟨.unknownNetwork name, by rw [decision, hname]; rfl⟩
      | some network => exact absurd (by rw [decision, hname]; rfl) (h network)
  | _ => exact ⟨.networkNotText path, rfl⟩

end Settings

theorem Session.network_of_config {s : Session} {path : Option String} {env : Option Environment} {override : Value}
    {name : String} {file : Value} (h : s.config path = .ok (name, file)) :
    s.network path env override = Settings.network override (env.getD s.environment) name file := by
  rw [Session.network, h]
  rfl

theorem Session.failsOnly_network_iff {s : Session} {path : Option String} (env : Option Environment)
    (override : Value) :
    FailsOnly SettingsFault.IsConfig (s.network path env override) ↔ s.LeadsTo Found.IsReadable path := by
  rw [network, failsOnly_bind_iff, failsOnly_config_iff]
  exact and_iff_left fun _ _ => Settings.failsOnly_network _ _ _ _

theorem Session.network_cases_iff {s : Session} {path : Option String} {env : Option Environment}
    {override : Value} :
    (s.network path env override = .ok .mainnet ∨ s.network path env override = .ok .testnet ∨
        ∃ fault, s.network path env override = .error (.config fault)) ↔
      s.LeadsTo Found.IsReadable path := by
  rw [← failsOnly_network_iff env override]
  cases h : s.network path env override with
  | ok network =>
      refine iff_of_true ?_ (failsOnly_ok network)
      have hknown := Session.mem_known_of_network h
      simp only [Network.known, List.mem_cons, List.not_mem_nil, or_false] at hknown
      rcases hknown with rfl | rfl
      · exact .inl rfl
      · exact .inr (.inl rfl)
  | error fault =>
      rw [failsOnly_error_iff]
      cases fault with
      | config fault => exact iff_of_true (.inr (.inr ⟨fault, rfl⟩)) trivial
      | _ => exact iff_of_false (by simp) id

/-- A network is loaded or a faulty configuration is told, exactly if the configuration is absent or a text that is
read or malformed. Once the file is read, the highest source that is not null is all that the outcome depends on: it
names the network, and the main one is meant when there is none. -/
theorem highest_source_decides (s : Session) (path : Option String) (env : Option Environment) (override : Value) :
    ((s.network path env override = .ok .mainnet ∨ s.network path env override = .ok .testnet ∨
        ∃ fault, s.network path env override = .error (.config fault)) ↔
      s.LeadsTo Found.IsReadable path) ∧
      ∀ (name : String) (file : Value), s.config path = .ok (name, file) →
        (Settings.Silent override (env.getD s.environment) file → s.network path env override = .ok .mainnet) ∧
          ∀ x, Settings.Decides override (env.getD s.environment) file x →
            (∀ network, s.network path env override = .ok network ↔
                ∃ text, x = .text text ∧ network.IsNamedBy text) ∧
              ((∀ (text : String) (network : Network), x = .text text → ¬network.IsNamedBy text) →
                ∃ fault, s.network path env override = .error (.config fault)) ∧
              ∀ (s' : Session) (path' : Option String) (env' : Option Environment) (override' file' : Value),
                s'.config path' = .ok (name, file') →
                  Settings.Decides override' (env'.getD s'.environment) file' x →
                    s'.network path' env' override' = s.network path env override := by
  refine ⟨Session.network_cases_iff, ?_⟩
  intro name file hload
  rw [Session.network_of_config hload]
  refine ⟨Settings.network_of_silent, fun x hdecides => ?_⟩
  rw [Settings.network_of_decides hdecides]
  refine ⟨fun network => Settings.decision_eq_ok_iff, fun hnone => ?_, ?_⟩
  · refine Settings.exists_decision_error fun network hnetwork => ?_
    obtain ⟨text, htext, hnamed⟩ := Settings.decision_eq_ok_iff.mp hnetwork
    exact hnone text network htext hnamed
  · intro s' path' env' override' file' hload' hdecides'
    rw [Session.network_of_config hload', Settings.network_of_decides hdecides']

theorem Network.not_isNamedBy {text : String} (h : Network.ofName? text = none) (network : Network) :
    ¬network.IsNamedBy text := by
  rw [← Network.ofName?_eq_some_iff, h]
  exact nofun

theorem highest_source_decides_sample :
    (sessionOf "network: dogecoin\n").network none (some [("DGB_NETWORK", " TEST ")]) .null = .ok .testnet ∧
      (sessionOf "network: 3\n").network none (some [("DGB_NETWORK", " TEST ")]) .null = .ok .testnet ∧
      (∃ fault, (sessionOf "network: 3\n").network none (some []) (.text "") = .error (.config fault)) ∧
      (sessionOf "rpc: \n").network none (some []) .null = .ok .mainnet ∧
      ∀ network, (sessionOf "network: [").network none (some []) .null = .ok network → network.name ≠ "dogecoin" := by
  have hload : ∃ p, (sessionOf "network: dogecoin\n").config none = .ok p ∧ p.1 = "default.yaml" := by decide +kernel
  have hload' : ∃ p, (sessionOf "network: 3\n").config none = .ok p ∧ p.1 = "default.yaml" := by decide +kernel
  have hload'' : ∃ p, (sessionOf "rpc: \n").config none = .ok p ∧ p.2.field "network" = .null := by decide +kernel
  obtain ⟨⟨_, file⟩, hload, rfl⟩ := hload
  obtain ⟨⟨_, file'⟩, hload', rfl⟩ := hload'
  obtain ⟨⟨name, file''⟩, hload'', hnull⟩ := hload''
  have hblank : ∀ c ∈ [' '], Text.isBlank c = true := List.forall_mem_singleton.mpr rfl
  have hreads : Text.ReadsAs " TEST " "test" := ⟨[' '], "TEST".toList, [' '], rfl, hblank, hblank, by decide +kernel⟩
  obtain ⟨-, hdecided⟩ := (highest_source_decides _ none (some [("DGB_NETWORK", " TEST ")]) .null).2 _ file hload
  obtain ⟨hnamed, -, hsame⟩ := hdecided _ (.environment rfl rfl)
  have htestnet := (hnamed .testnet).mpr ⟨_, rfl, "test", by simp [Network.spellings], hreads⟩
  obtain ⟨-, hoverride⟩ := (highest_source_decides _ none (some []) (.text "")).2 _ file' hload'
  obtain ⟨-, hunknown, -⟩ := hoverride _ (.override nofun)
  refine ⟨htestnet, (hsame _ _ _ _ _ hload' (.environment rfl rfl)).trans htestnet, hunknown ?_, ?_, ?_⟩
  · rintro text network ⟨⟩
    exact Network.not_isNamedBy (by decide +kernel) network
  · exact ((highest_source_decides _ none (some []) .null).2 _ file'' hload'').1 ⟨rfl, rfl, hnull⟩
  · intro network hnetwork
    have hleads : (sessionOf "network: [").LeadsTo Found.IsReadable none := ⟨_, _, rfl, by decide +kernel⟩
    rcases (highest_source_decides _ none (some []) .null).1.mpr hleads with h | h | ⟨fault, h⟩
    · cases h.symm.trans hnetwork
      decide
    · cases h.symm.trans hnetwork
      decide
    · cases h.symm.trans hnetwork

/-- A file that is no text and a path below the home of nobody end a load in another way. -/
theorem network_fails_otherwise :
    Session.network
        { defaultPath := "default.yaml"
          files := { contents := [(["default.yaml"], "network: mainnet # caf".toUTF8 ++ ⟨#[0xE9, 0x0A]⟩)] } }
        none (some []) .null = .error (.garbled ⟨22, [0xE9], .continuation⟩) ∧
      Session.network { defaultPath := "default.yaml" } (some "~nosuchuser/x") (some []) .null =
        .error (.home .unknown) :=
  ⟨rfl, rfl⟩

end PaymentUri
