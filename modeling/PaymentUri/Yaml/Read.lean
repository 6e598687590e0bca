import PaymentUri.Yaml.Object

namespace PaymentUri.Yaml

def Object.mark : Object → String
  | .map _ => "\x7b...\x7d"
  | _ => "[...]"

abbrev Unfold := StateM (Array (Option Value))

namespace Unfold

abbrev Unfolded := Value × Bool

def gather (f : List Value → Value) (parts : List Unfolded) : Unfolded :=
  (f (parts.map (·.1)), parts.all (·.2))

def collection (part : Nat → Unfold Unfolded) : Object → Unfold Unfolded
  | .value v => return (v, true)
  | .set keys => return (.set keys, true)
  | .list items => return gather .list (← items.mapM part)
  | .pairs items => do
      let pairs ← items.mapM fun e => do
        let (key, keyClosed) ← part e.1
        let (value, valueClosed) ← part e.2
        return (Value.pair key value, keyClosed && valueClosed)
      return gather .list pairs
  | .map es => return gather (fun vs => .map ((es.map (·.1)).zip vs)) (← es.mapM fun e => part e.2)

/-- The value of a node inside those of a path. The nodes of the first levels can occur inside
themselves once more: what contains them is not looked at together with them. -/
def value (objects : Array (Option Object)) : Nat → Nat → List Nat → Nat → Unfold Unfolded
  | 0, _, _, _ => return (.null, true)
  | fuel + 1, levels, path, id => do
      if let some (some v) := (← get)[id]? then return (v, true)
      match objects[id]?.join with
      | none => return (.null, true)
      | some o =>
          if path.contains id then return (.again o.mark, false)
          let path := if levels = 0 then id :: path else []
          let (v, closed) ← collection (value objects fuel (levels - 1) path) o
          if closed then modify (·.setIfInBounds id (some v))
          return (v, closed)

end Unfold

def levels : Nat := 2

def valueOf (objects : Array (Option Object)) : Value :=
  let fuel := objects.size + levels + 1
  (((Unfold.value objects fuel levels [] 0).run (Array.replicate objects.size none)).1).1

def read (text : String) : Except Fault Value := do
  return valueOf (← objects (← nodes (tokens text.toList)))

end PaymentUri.Yaml
