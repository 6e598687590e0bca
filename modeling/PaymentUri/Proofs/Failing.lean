import PaymentUri.Command.Run
import PaymentUri.Proofs.Check

namespace PaymentUri

section

variable {ε ε' α β : Type} {p : ε → Prop} {q : ε' → Prop}

def FailsOnly (p : ε → Prop) (x : Except ε α) : Prop := ∀ e, x = .error e → p e

@[simp]
theorem failsOnly_ok (a : α) : FailsOnly p (.ok a : Except ε α) := by
  intro e h
  cases h

@[simp]
theorem failsOnly_error_iff (e : ε) : FailsOnly p (.error e : Except ε α) ↔ p e := by
  constructor
  · intro h
    exact h e rfl
  · rintro h _ ⟨⟩
    exact h

instance decidableFailsOnly [DecidablePred p] : (x : Except ε α) → Decidable (FailsOnly p x)
  | .ok a => .isTrue (failsOnly_ok a)
  | .error e => decidable_of_iff (p e) (failsOnly_error_iff e).symm

theorem failsOnly_bind_iff (x : Except ε α) (f : α → Except ε β) :
    FailsOnly p (x >>= f) ↔ FailsOnly p x ∧ ∀ a, x = .ok a → FailsOnly p (f a) := by
  cases x with
  | error e =>
      change FailsOnly p (.error e) ↔ _
      rw [failsOnly_error_iff, failsOnly_error_iff]
      refine ⟨fun h => ⟨h, ?_⟩, And.left⟩
      rintro a ⟨⟩
  | ok a =>
      refine ⟨fun h => ⟨failsOnly_ok a, ?_⟩, fun h => h.2 a rfl⟩
      rintro _ ⟨⟩
      exact h

instance decidableReturns {r : α → Prop} [DecidablePred r] : (x : Except ε α) → Decidable (∃ a, x = .ok a ∧ r a)
  | .ok a => decidable_of_iff (r a) ⟨fun h => ⟨a, rfl, h⟩, fun ⟨_, h, hr⟩ => Except.ok.inj h ▸ hr⟩
  | .error _ => .isFalse fun ⟨_, h, _⟩ => nomatch h

def Passes (x : Except ε α) : Prop := ∃ a, x = .ok a

theorem failsOnly_bind_iff_passes {x : Except ε α} {f : α → Except ε β} {c : Prop}
    (hf : ∀ a, FailsOnly p (f a) ↔ c) : FailsOnly p (x >>= f) ↔ FailsOnly p x ∧ (Passes x → c) := by
  rw [failsOnly_bind_iff, Passes, exists_imp]
  exact and_congr_right fun _ => forall₂_congr fun a _ => hf a

theorem failsOnly_mapError_iff (f : ε → ε') (x : Except ε α) :
    FailsOnly q (x.mapError f) ↔ FailsOnly (fun e => q (f e)) x := by
  cases x with
  | error e =>
      change FailsOnly q (.error (f e)) ↔ _
      rw [failsOnly_error_iff, failsOnly_error_iff]
  | ok a => exact iff_of_true (failsOnly_ok a) (failsOnly_ok a)

theorem failsOnly_ite {c : Prop} [Decidable c] {x y : Except ε α} (hx : FailsOnly p x) (hy : FailsOnly p y) :
    FailsOnly p (if c then x else y) := by
  split
  next => exact hx
  next => exact hy

theorem FailsOnly.mono {p' : ε → Prop} {x : Except ε α} (h : FailsOnly p x) (hp : ∀ e, p e → p' e) :
    FailsOnly p' x := fun e he => hp e (h e he)

namespace Report

theorem failsOnly_bind_iff (r : Report ε α) (f : α → Report ε β) :
    FailsOnly p (r >>= f).outcome ↔
      FailsOnly p r.outcome ∧ ∀ a, r.outcome = .ok a → FailsOnly p (f a).outcome := by
  rw [outcome_bind]
  exact PaymentUri.failsOnly_bind_iff _ _

theorem failsOnly_bind_iff_left {r : Report ε α} {f : α → Report ε β} (hf : ∀ a, FailsOnly p (f a).outcome) :
    FailsOnly p (r >>= f).outcome ↔ FailsOnly p r.outcome := by
  rw [failsOnly_bind_iff]
  exact and_iff_left fun a _ => hf a

end Report

end

def SettingsFault.IsConfig : SettingsFault → Prop
  | config _ => True
  | _ => False

instance SettingsFault.decidableIsConfig : DecidablePred SettingsFault.IsConfig
  | .config _ => .isTrue trivial
  | .home _ | .directory | .longPath | .garbled _ | .yaml _ | .endpointNotText | .endpointBytes _ _ | .endpointUrl _
  | .infinitePort | .unwritable => .isFalse id

def CallFault.IsNode : CallFault → Prop
  | node _ => True
  | _ => False

def Stop.IsTold : Stop → Prop
  | told _ => True
  | crash _ => False

theorem SettingsFault.IsConfig.stop {fault : SettingsFault} (h : fault.IsConfig) : fault.stop.IsTold := by
  cases fault with
  | config => exact trivial
  | _ => exact h.elim

namespace Command

theorem exists_recover_iff (r : Report Stop Output) :
    (∃ out, (recover r).outcome = .ok out) ↔ FailsOnly Stop.IsTold r.outcome := by
  rw [recover]
  split
  next out h =>
    rw [h]
    exact iff_of_true ⟨out, rfl⟩ (failsOnly_ok out)
  next message h =>
    rw [h, failsOnly_error_iff]
    exact iff_of_true ⟨_, rfl⟩ trivial
  next c h =>
    rw [h, failsOnly_error_iff]
    refine iff_of_false ?_ id
    rintro ⟨out, hout⟩
    cases hout

theorem failsOnly_checkChain (network : Network) (info : Value) :
    FailsOnly Stop.IsTold (checkChain network info) := by
  rw [checkChain.eq_def]
  split
  next =>
    exact failsOnly_ite (failsOnly_ok ()) ((failsOnly_error_iff _).mpr trivial)
  next => exact (failsOnly_error_iff _).mpr trivial

end Command

theorem Session.config_of_configPath {s : Session} {path : Option String} {place : String} {required : Bool}
    (h : s.configPath path = .ok (place, required)) :
    s.config path = Settings.readFile place required (s.files.find place) >>= fun file => pure (place, file) := by
  rw [config, h]
  rfl

theorem Settings.failsOnly_network (override : Value) (env : Environment) (path : String) (file : Value) :
    FailsOnly SettingsFault.IsConfig (Settings.network override env path file) := by
  rw [Settings.network]
  split
  next => exact failsOnly_ok _
  next =>
    split
    next => exact failsOnly_ok _
    next => exact (failsOnly_error_iff _).mpr trivial
  next => exact (failsOnly_error_iff _).mpr trivial

end PaymentUri
