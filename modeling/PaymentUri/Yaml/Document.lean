import PaymentUri.Yaml.Resolve
import PaymentUri.Yaml.Token

namespace PaymentUri.Yaml

structure Composer where
  tokens : List Token
  size : Nat
  versioned : Bool := false
  handles : List (String × String) := []
  nodes : Array Node := #[]
  anchors : List (String × Nat) := []

abbrev Compose := StateT Composer (Except Fault)

namespace Compose

variable {α : Type}

def peek : Compose (Option Token) := do
  match (← get).tokens with
  | [] => return none
  -- what is wrong with the text behind a place is told when that place is reached
  | .stop fault :: _ => throw fault
  | t :: _ => return some t

def advance : Compose Unit := modify fun c => { c with tokens := c.tokens.tail }

def accept (t : Token) : Compose Bool := do
  if (← peek) != some t then return false
  advance
  return true

def expect (t : Token) : Compose Unit := do
  if !(← accept t) then throw .malformed

def repeated (read : Compose (Option α)) : Nat → Array α → Compose (Array α)
  | 0, _ => throw .malformed
  | fuel + 1, before => do
      match ← read with
      | none => return before
      | some a => repeated read fuel (before.push a)

def many (read : Compose (Option α)) (before : Array α := #[]) : Compose (Array α) := do
  repeated read ((← get).size + 1) before

def add (node : Node) : Compose Nat := do
  let id := (← get).nodes.size
  modify fun c => { c with nodes := c.nodes.push node }
  return id

def absent : Compose Nat := add ⟨.null, .scalar ""⟩

def optional (ends : List Token) (part : Compose Nat) : Compose Nat := do
  if (← peek).any ends.contains then absent else part

structure Properties where
  anchor : Option String
  tag : Option String

def anchor? : Compose (Option String) := do
  match ← peek with
  | some (.anchor name) =>
      advance
      return some name
  | _ => return none

def tag? : Compose (Option Tag) := do
  match ← peek with
  | some (.tag t) =>
      advance
      return some t
  | _ => return none

def fullTag (t : Tag) : Compose String := do
  match t.handle with
  | none => return t.text
  | some handle =>
      match (← get).handles.lookup handle with
      | some start => return start ++ t.text
      | none => throw .malformed

def properties : Compose Properties := do
  let first ← anchor?
  let tag ← tag?
  let anchor ← if first.isNone then anchor? else pure first
  return ⟨anchor, ← tag.mapM fullTag⟩

/-- Adds a node under its name, which must be a new one. A lone mark for a tag says nothing of the
kind. -/
def addWith (p : Properties) (kind : Kind) (content : Content) : Compose Nat := do
  let anchors := (← get).anchors
  if p.anchor.any fun name => (anchors.lookup name).isSome then throw .malformed
  let named := p.tag.filter (· != "!")
  let id ← add ⟨named.elim kind Kind.ofTag, content⟩
  modify fun c => { c with anchors := (p.anchor.map (·, id)).toList ++ anchors }
  return id

/-- Adds a collection. It has its name already while its contents are read. -/
def collection (p : Properties) (kind : Kind) (read : Compose Content) : Compose Nat := do
  let id ← addWith p kind (.items [])
  let content ← read
  modify fun c => { c with nodes := c.nodes.modify id ({ · with content }) }
  return id

/-- Only a text without quotation marks, or one behind a lone mark, may be more than a text. -/
def scalarKind (p : Properties) (plain : Bool) (text : String) : Kind :=
  if plain || p.tag == some "!" then kindOf text else .text

def blockGaps : List Token := [.key, .value, .blockEnd]

def blockItem (ends : List Token) (part : Compose Nat) : Compose (Option Nat) := do
  if ← accept .blockEntry then return some (← optional ends part) else return none

def blockItems (part : Compose Nat) : Compose Content := do
  let items ← many (blockItem [.blockEntry, .blockEnd] part)
  expect .blockEnd
  return .items items.toList

def bareItems (part : Compose Nat) : Compose Content := do
  -- a sequence that is not indented has no token at its end
  return .items (← many (blockItem (.blockEntry :: blockGaps) part)).toList

def blockPair (part : Compose Nat) : Compose (Option (Nat × Nat)) := do
  if !(← accept .key) then return none
  let key ← optional blockGaps part
  let value ← if ← accept .value then optional blockGaps part else absent
  return some (key, value)

def blockEntries (part : Compose Nat) : Compose Content := do
  let entries ← many (blockPair part)
  expect .blockEnd
  return .entries entries.toList

def flowPart (first : Bool) (close : Token) (read : Compose α) : Compose (Option α) := do
  if ← accept close then return none
  if !first then expect .flowEntry
  if ← accept close then return none
  return some (← read)

def flowParts (close : Token) (read : Compose α) : Compose (List α) := do
  match ← flowPart true close read with
  | none => return []
  | some a => return (← many (flowPart false close read) #[a]).toList

def flowPair (close : Token) (part : Compose Nat) : Compose (Nat × Nat) := do
  let key ← optional [.value, .flowEntry, close] part
  let value ← if ← accept .value then optional [.flowEntry, close] part else absent
  return (key, value)

def flowItem (part : Compose Nat) : Compose Nat := do
  if ← accept .key then
    collection ⟨none, none⟩ .mapping do return .entries [← flowPair .flowSequenceEnd part]
  else part

def flowEntry (part : Compose Nat) : Compose (Nat × Nat) := do
  if ← accept .key then flowPair .flowMappingEnd part
  else
    let key ← part
    return (key, ← absent)

def flowItems (part : Compose Nat) : Compose Content := do
  return .items (← flowParts .flowSequenceEnd (flowItem part))

def flowEntries (part : Compose Nat) : Compose Content := do
  return .entries (← flowParts .flowMappingEnd (flowEntry part))

def reference (name : String) : Compose Nat := do
  match (← get).anchors.lookup name with
  | some id => return id
  | none => throw .malformed

def propertiesAlone (p : Properties) : Compose Nat := do
  if p.anchor.isNone && p.tag.isNone then throw .malformed
  addWith p .null (.scalar "")

/-- A node, with so many levels of nodes inside it. Only outside of brackets it may be a block, and only
inside a block mapping a sequence that is not indented. -/
def node : Nat → Bool → Bool → Compose Nat
  | 0, _, _ => throw .tooDeep
  | levels + 1, block, bare => do
      if let some (.reference name) ← peek then
        advance
        return ← reference name
      let p ← properties
      match ← peek with
      | some (.scalar plain text) =>
          advance
          addWith p (scalarKind p plain text) (.scalar text)
      | some .flowSequence =>
          advance
          collection p .sequence (flowItems (node levels false false))
      | some .flowMapping =>
          advance
          collection p .mapping (flowEntries (node levels false false))
      | some .blockSequence =>
          if !block then propertiesAlone p
          else
            advance
            collection p .sequence (blockItems (node levels true false))
      | some .blockMapping =>
          if !block then propertiesAlone p
          else
            advance
            collection p .mapping (blockEntries (node levels true true))
      | some .blockEntry =>
          if bare then collection p .sequence (bareItems (node levels true false))
          else propertiesAlone p
      | _ => propertiesAlone p

def maxLevels : Nat := 486

def root : Compose Nat := node maxLevels true false

def obey : Directive → Compose Unit
  | .version major => do
      if (← get).versioned || major != 1 then throw .malformed
      modify ({ · with versioned := true })
  | .tagHandle handle text => do
      let handles := (← get).handles
      if (handles.lookup handle).isSome then throw .malformed
      modify ({ · with handles := (handle, text) :: handles })
  | .other => return

def directive : Compose (Option Unit) := do
  match ← peek with
  | some (.directive d) =>
      advance
      obey d
      return some ()
  | _ => return none

def commonHandles : List (String × String) := [("!", "!"), ("!!", tagPrefix)]

def directives : Compose Unit := do
  modify ({ · with versioned := false, handles := [] })
  let _ ← many directive
  modify fun c => { c with handles := c.handles ++ commonHandles }

def announced : Compose Nat := do
  directives
  expect .documentStart
  match ← peek with
  | none | some (.directive _) | some .documentStart | some .documentEnd => absent
  | some _ => root

def document : Compose Unit := do
  match ← peek with
  | none => return
  | some (.directive _) | some .documentStart => let _ ← announced
  | some _ =>
      modify ({ · with handles := commonHandles })
      let _ ← root

def ending : Compose Unit := do
  let _ ← many do if ← accept .documentEnd then return some () else return none
  if (← peek).isSome then
    -- a second document is at fault, but what its first token tells comes before that
    directives
    let _ ← peek
    throw .malformed

end Compose

def nodes (ts : List Token) : Except Fault (Array Node) := do
  let compose : Compose Unit := do
    Compose.document
    Compose.ending
  let ((), c) ← compose.run { tokens := ts, size := ts.length }
  return c.nodes

end PaymentUri.Yaml
