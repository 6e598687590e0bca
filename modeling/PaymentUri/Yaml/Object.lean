import PaymentUri.Yaml.Document
import PaymentUri.Yaml.Scalar

namespace PaymentUri.Yaml

/-- What a node denotes. The contents of a collection are known by the numbers of their nodes; keys are
values at once, since no collection can be one. -/
inductive Object where
  | value (v : Value)
  | list (items : List Nat)
  | set (keys : List Value)
  | pairs (items : List (Nat × Nat))
  | map (entries : List (Value × Nat))

structure Builder where
  nodes : Array Node
  objects : Array (Option Object)
  waiting : List Nat := []

abbrev Build := StateT Builder (Except Fault)

def Kind.isCollection : Kind → Bool
  | .sequence | .mapping | .set | .pairs => true
  | _ => false

namespace Build

def node (id : Nat) : Build Node := do
  match (← get).nodes[id]? with
  | some n => return n
  | none => throw .malformed

def kind (id : Nat) : Build Kind := Node.kind <$> node id

def setObject (id : Nat) (o : Object) : Build Unit :=
  modify fun b => { b with objects := b.objects.setIfInBounds id (some o) }

def modifyNode (id : Nat) (f : Node → Node) : Build Unit :=
  modify fun b => { b with nodes := b.nodes.modify id f }

def textOf : Nat → Nat → Build String
  | 0, _ => throw .tooDeep
  | fuel + 1, id => do
      match (← node id).content with
      | .scalar text => return text
      | .items _ => throw .malformed
      | .entries es =>
          -- the text of a mapping is the one behind its default key
          match ← es.findM? fun e => return (← kind e.1) == .default with
          | some e => textOf fuel e.2
          | none => throw .malformed

def simple (id : Nat) (n : Node) : Build Value := do
  let text ← textOf ((← get).nodes.size + 1) id
  if n.kind == .moment && n.content != .scalar text then throw .momentOfMap
  scalarValue n.kind text

def meet (id : Nat) : Build Object := do
  if let some (some o) := (← get).objects[id]? then return o
  let n ← node id
  let o : Object ← if n.kind.isCollection then pure (.list []) else .value <$> simple id n
  setObject id o
  if n.kind.isCollection then modify fun b => { b with waiting := id :: b.waiting }
  return o

def itemsOf (id : Nat) : Build (List Nat) := do
  match (← node id).content with
  | .items items => return items
  | _ => throw .malformed

def entriesOf (id : Nat) : Build (List (Nat × Nat)) := do
  match (← node id).content with
  | .entries es => return es
  | _ => throw .malformed

def plainKey (e : Nat × Nat) : Build Unit := do
  if (← kind e.1) == .default then modifyNode e.1 ({ · with kind := .text })

/-- Replaces the entries of a mapping whose keys say so by those of the mappings behind them. These come
first, of several mappings the last one, so that nearer entries count. -/
def merge : Nat → Nat → Build Unit
  | 0, _ => throw .tooDeep
  | fuel + 1, id => do
      let es ← entriesOf id
      let kinds ← es.mapM fun e => return (e, ← kind e.1)
      let own := (kinds.filter (·.2 != .merge)).map (·.1)
      let merged := (kinds.filter (·.2 == .merge)).map (·.1.2)
      modifyNode id ({ · with content := .entries own })
      own.forM plainKey
      let entriesFrom (other : Nat) : Build (List (Nat × Nat)) := do
        let _ ← entriesOf other
        merge fuel other
        entriesOf other
      let found ← merged.mapM fun other => do
        match (← node other).content with
        | .items others => return (← others.mapM entriesFrom).reverse.flatten
        | _ => entriesFrom other
      modifyNode id ({ · with content := .entries (found.flatten ++ own) })

def keyOf (id : Nat) : Build Value := do
  match ← meet id with
  | .value v => return v
  | _ => throw .malformed

def mapEntries (id : Nat) : Build (List (Value × Nat)) := do
  let _ ← entriesOf id
  merge ((← get).nodes.size + 1) id
  let es ← (← entriesOf id).mapM fun e => do
    let key ← keyOf e.1
    let _ ← meet e.2
    return (key, e.2)
  return es.foldl (fun es e => Value.insertEntry e.1 e.2 es) []

def pairOf (id : Nat) : Build (Nat × Nat) := do
  match ← entriesOf id with
  | [e] =>
      let _ ← meet e.1
      let _ ← meet e.2
      return e
  | _ => throw .malformed

def fill (id : Nat) : Build Unit := do
  match ← kind id with
  | .sequence =>
      let items ← itemsOf id
      items.forM fun item => do let _ ← meet item
      setObject id (.list items)
  | .pairs => setObject id (.pairs (← (← itemsOf id).mapM pairOf))
  | .set => setObject id (.set ((← mapEntries id).map (·.1)))
  | _ => setObject id (.map (← mapEntries id))

def fillAll : Nat → Build Unit
  | 0 => throw .tooDeep
  | fuel + 1 => do
      let waiting := (← get).waiting
      if waiting.isEmpty then return
      modify ({ · with waiting := [] })
      waiting.reverse.forM fill
      fillAll fuel

def all : Build Unit := do
  let _ ← meet 0
  fillAll ((← get).nodes.size + 1)

end Build

def objects (nodes : Array Node) : Except Fault (Array (Option Object)) := do
  if nodes.isEmpty then return #[]
  let ((), b) ← Build.all.run { nodes, objects := Array.replicate nodes.size none }
  return b.objects

end PaymentUri.Yaml
