import PaymentUri.Command.View
import PaymentUri.Proofs.JsonText
import PaymentUri.Proofs.Request

namespace PaymentUri

variable {r : PaymentRequest} {es : List (String × String)}

theorem Json.plain_elim {α : Type} {n : Nat} {f : α → Value} {x : Option α}
    (h : ∀ y, x = some y → Json.Plain n (f y)) : Json.Plain n (x.elim .null f) := by
  cases x with
  | none => exact .null n
  | some y => exact h y rfl

theorem Json.plain_ofText? (n : Nat) (given : Option String) : Json.Plain n (.ofText? given) := by
  cases given with
  | none => exact .null n
  | some t => exact .text n t

theorem Json.plain_texts (h : (es.map Prod.fst).Nodup) (n : Nat) :
    Json.Plain (n + 1) (.map (es.map fun e => (.text e.1, .text e.2))) := by
  have hkeyed : (es.map fun e => (Value.text e.1, Value.text e.2)) =
      (es.map fun e => (e.1, Value.text e.2)).map Json.keyed := by
    rw [List.map_map]
    rfl
  rw [hkeyed]
  refine .map n _ ?_ ?_
  · rw [List.map_map]
    exact h
  · intro e he
    obtain ⟨f, -, rfl⟩ := List.mem_map.mp he
    exact .text n f.2

theorem PaymentRequest.plain_view (h : r.Canonical) : Json.Plain 2 r.view := by
  have hunits : Json.Plain 1 (r.amount.elim .null .int) :=
    Json.plain_elim fun n hn => .int 1 n (Text.isWritable_of_lt (by decide) (h.amount n hn).2)
  have hamount : Json.Plain 1 (r.amount.elim .null fun n => .text (Amount.plain n)) :=
    Json.plain_elim fun _ _ => .text 1 _
  have hnetwork : Json.Plain 1 r.payee.networkName := by
    cases r.payee with
    | address a => exact .text 1 _
    | text t => exact .null 1
  have hkeys : ["address", "network", "amount_units", "amount", "label", "message",
      "extra_parameters"].Nodup := by decide
  refine .map 1 [("address", _), ("network", _), ("amount_units", _), ("amount", _), ("label", _),
    ("message", _), ("extra_parameters", _)] hkeys ?_
  simp only [List.forall_mem_cons]
  exact ⟨.text 1 _, hnetwork, hunits, hamount, Json.plain_ofText? 1 _, Json.plain_ofText? 1 _,
    Json.plain_texts h.nodup 0, nofun⟩

theorem PaymentRequest.read_pretty_view (h : r.Canonical) {maxDepth : Nat} (hdepth : 2 ≤ maxDepth) :
    Json.read maxDepth (Json.pretty false 0 r.view ++ "\n") = .ok r.view :=
  Json.read_pretty (plain_view h) hdepth

end PaymentUri
