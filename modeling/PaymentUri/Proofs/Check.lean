import PaymentUri.Parse

namespace PaymentUri

theorem bind_eq_ok_iff {ε α β : Type} {x : Except ε α} {f : α → Except ε β} {b : β} :
    (x >>= f) = .ok b ↔ ∃ a, x = .ok a ∧ f a = .ok b := by
  cases x with
  | error e =>
      constructor
      · intro h
        cases h
      · rintro ⟨a, ha, -⟩
        cases ha
  | ok a =>
      constructor
      · intro h
        exact ⟨a, rfl, h⟩
      · rintro ⟨c, hc, h⟩
        cases hc
        exact h

theorem bind_eq_error_iff {ε α β : Type} {x : Except ε α} {f : α → Except ε β} {e : ε} :
    (x >>= f) = .error e ↔ x = .error e ∨ ∃ a, x = .ok a ∧ f a = .error e := by
  cases x with
  | error d =>
      constructor
      · intro h
        cases h
        exact .inl rfl
      · rintro (h | ⟨a, ha, -⟩)
        · cases h
          rfl
        · cases ha
  | ok a =>
      constructor
      · intro h
        exact .inr ⟨a, rfl, h⟩
      · rintro (h | ⟨b, hb, h⟩)
        · cases h
        · cases hb
          exact h

theorem eq_ok_of_mapError {ε ε' α : Type} {f : ε → ε'} {x : Except ε α} {a : α}
    (h : x.mapError f = .ok a) : x = .ok a := by
  cases x with
  | error e => cases h
  | ok b =>
      cases h
      rfl

theorem mapError_eq_ok_iff {ε ε' α : Type} {f : ε → ε'} {x : Except ε α} {a : α} :
    x.mapError f = .ok a ↔ x = .ok a := by
  constructor
  · exact eq_ok_of_mapError
  · rintro rfl
    rfl

theorem mapError_eq_error_iff {ε ε' α : Type} {f : ε → ε'} {x : Except ε α} {e : ε'} :
    x.mapError f = .error e ↔ ∃ fault, x = .error fault ∧ f fault = e := by
  cases x with
  | error fault =>
      constructor
      · intro h
        exact ⟨fault, rfl, Except.error.inj h⟩
      · rintro ⟨_, ⟨⟩, rfl⟩
        rfl
  | ok a =>
      constructor
      · intro h
        cases h
      · rintro ⟨fault, h, -⟩
        cases h

theorem eq_ok_of_toOption {ε α : Type} {x : Except ε α} {a : α} (h : x.toOption = some a) :
    x = .ok a := by
  cases x with
  | error e => cases h
  | ok b => rw [Option.some.inj h]

theorem exists_of_isOk {ε α : Type} {x : Except ε α} (h : x.isOk = true) : ∃ b, x = .ok b := by
  cases x with
  | ok b => exact ⟨b, rfl⟩
  | error fault => cases h

namespace Report

variable {ε ε' α β : Type}

@[simp]
theorem outcome_ofExcept (x : Except ε α) : (ofExcept x).outcome = x := rfl

@[simp]
theorem outcome_mapError (f : ε → ε') (r : Report ε α) :
    (r.mapError f).outcome = r.outcome.mapError f := rfl

theorem ofExcept_ok_bind (a : α) (f : α → Report ε β) : (ofExcept (.ok a) >>= f) = f a := rfl

theorem outcome_bind (r : Report ε α) (f : α → Report ε β) :
    (r >>= f).outcome = r.outcome >>= fun a => (f a).outcome := by
  change (r.andThen f).outcome = _
  rw [andThen]
  cases r.outcome <;> rfl

theorem events_bind (r : Report ε α) (f : α → Report ε β) :
    (r >>= f).events = r.events ++
      match r.outcome with
      | .ok a => (f a).events
      | .error _ => [] := by
  change (r.andThen f).events = _
  rw [andThen]
  cases r.outcome with
  | ok a => rfl
  | error e => exact (List.append_nil _).symm

theorem outcome_log_bind (level : Level) (message : String) (f : Unit → Report ε β) :
    (log level message >>= f).outcome = (f ()).outcome := by
  rw [outcome_bind]
  rfl

end Report

structure Check where
  fails : Bool
  kind : FaultKind
  field : Option String

namespace Check

variable {α β : Type} {a : α} {b : β} {cs ds : List Check} {x : Except Rejection α}

def first? (cs : List Check) : Option (FaultKind × Option String) :=
  (cs.find? fails).map fun c => (c.kind, c.field)

theorem first?_cons (c : Check) (cs : List Check) :
    first? (c :: cs) = if c.fails then some (c.kind, c.field) else first? cs := by
  rw [first?, List.find?_cons]
  cases c.fails <;> rfl

theorem first?_append (cs ds : List Check) : first? (cs ++ ds) = (first? cs).or (first? ds) := by
  simp only [first?, List.find?_append]
  cases cs.find? fails <;> rfl

theorem first?_eq_none_iff : first? cs = none ↔ ∀ c ∈ cs, c.fails = false := by
  simp [first?]

/-- A reading obeys a list of checks when it gives its value as soon as all of them pass, and is
rejected otherwise for what the first failing one reports. -/
inductive Obeys (cs : List Check) (a : α) : Except Rejection α → Prop
  | passed (h : first? cs = none) : Obeys cs a (.ok a)
  | failed (e : Rejection) (h : first? cs = some (e.kind, e.field)) : Obeys cs a (.error e)

namespace Obeys

theorem pure (a : α) : Obeys [] a (.ok a) := .passed rfl

theorem bind {f : α → Except Rejection β} (hx : Obeys cs a x)
    (hf : first? cs = none → Obeys ds b (f a)) : Obeys (cs ++ ds) b (x >>= f) := by
  cases hx with
  | passed h =>
      change Obeys _ b (f a)
      have hy := hf h
      generalize f a = y at hy
      cases hy with
      | passed hd => exact .passed (by rw [first?_append, h, hd]; rfl)
      | failed e hd => exact .failed e (by rw [first?_append, h, hd]; rfl)
  | failed e h => exact .failed e (by rw [first?_append, h]; rfl)

theorem map (f : α → β) (hx : Obeys cs a x) : Obeys cs (f a) (x.map f) := by
  cases hx with
  | passed h => exact .passed h
  | failed e h => exact .failed e h

theorem guard {p : Prop} [Decidable p] {e : Rejection} {kind : FaultKind} {field : Option String}
    (hk : e.kind = kind) (hf : e.field = field) (hx : ¬p → Obeys cs a x) :
    Obeys (⟨decide p, kind, field⟩ :: cs) a (if p then .error e else x) := by
  subst hk hf
  by_cases hp : p
  · rw [if_pos hp]
    exact .failed e (by simp [first?_cons, hp])
  · rw [if_neg hp]
    cases hx hp with
    | passed h => exact .passed (by simp [first?_cons, hp, h])
    | failed e h => exact .failed e (by simp [first?_cons, hp, h])

theorem congr (h : first? cs = first? ds) (hx : Obeys cs a x) : Obeys ds a x := by
  cases hx with
  | passed hc => exact .passed (h ▸ hc)
  | failed e hc => exact .failed e (h ▸ hc)

theorem eq_ok_iff {c : α} (hx : Obeys cs a x) :
    x = .ok c ↔ (∀ check ∈ cs, check.fails = false) ∧ c = a := by
  rw [← first?_eq_none_iff]
  cases hx with
  | passed h => simp [h, eq_comm]
  | failed e h => simp [h]

end Obeys

end Check

end PaymentUri
