import PaymentUri.Yaml.Cursor
import PaymentUri.Yaml.Fault

namespace PaymentUri.Yaml

inductive Directive where
  | version (major : Int)
  | tagHandle (handle text : String)
  | other
deriving DecidableEq

structure Tag where
  handle : Option String
  text : String
deriving DecidableEq

def isNameChar (ch : Char) : Bool := ch.isAlphanum || ch == '-' || ch == '_'

def isTagChar (ch : Char) : Bool := ch.isAlphanum || "-;/?:@&=+$,_.!~*'()[]".toList.contains ch

def name (c : Cursor) : Except Fault (String × Cursor) :=
  let (cs, c) := c.takeWhile isNameChar
  if cs.isEmpty then .error .malformed else .ok (String.ofList cs, c)

/-- Refuses a place at which neither a blank nor a line break nor the end is. Tabs are no blanks here. -/
def requireGap (c : Cursor) : Except Fault Unit :=
  if c.isAtLineEnd || c.isAt ' ' then .ok () else .error .malformed

def anchorName (c : Cursor) : Except Fault (String × Cursor) := do
  let (text, c) ← name c.next
  if c.isSpaceAt 0 || c.rest.head?.any "?:,]\x7d%@\x60".toList.contains then return (text, c)
  else throw .malformed

def escapedBytes : Nat → List UInt8 → Cursor → Except Fault (List UInt8 × Cursor)
  | 0, _, _ => .error .malformed
  | fuel + 1, before, c =>
      match c.rest with
      | '%' :: a :: b :: _ => do
          let byte ← orMalformed (Text.hexNumber? [a, b])
          escapedBytes fuel (.ofNat byte :: before) (c.skip 3)
      | '%' :: _ => .error .malformed
      | _ => .ok (before.reverse, c)

def tagPieces : Nat → List String → Cursor → Except Fault (String × Cursor)
  | 0, _, _ => .error .malformed
  | fuel + 1, before, c =>
      let (cs, c) := c.takeWhile isTagChar
      let before := if cs.isEmpty then before else String.ofList cs :: before
      if c.isAt '%' then do
        let (bytes, c) ← escapedBytes (fuel + 1) [] c
        let piece ← orMalformed (String.fromUTF8? ⟨bytes.toArray⟩)
        tagPieces fuel (piece :: before) c
      else if before.isEmpty then .error .malformed
      else .ok ("".intercalate before.reverse, c)

def tagText (c : Cursor) : Except Fault (String × Cursor) := tagPieces c.fuel [] c

def tagHandle (c : Cursor) : Except Fault (String × Cursor) :=
  if !c.isAt '!' then .error .malformed
  else if (c.peek? 1).any (· == ' ') then .ok ("!", c.next)
  else
    let (cs, c) := c.next.takeWhile isNameChar
    if c.isAt '!' then .ok (String.ofList ('!' :: cs ++ ['!']), c.next) else .error .malformed

def hasHandle (c : Cursor) : Bool :=
  (c.rest.tail.takeWhile fun ch => !(ch == ' ' || isBreak ch)).contains '!'

def tag (c : Cursor) : Except Fault (Tag × Cursor) := do
  let (t, c) ←
    if (c.peek? 1).any (· == '<') then do
      let (text, c) ← tagText (c.skip 2)
      if !c.isAt '>' then throw .malformed
      pure (⟨none, text⟩, c.next)
    else if c.isSpaceAt 1 then pure (⟨none, "!"⟩, c.next)
    else do
      let (handle, c) ← if hasHandle c then tagHandle c else pure ("!", c.next)
      let (text, c) ← tagText c
      pure (⟨some handle, text⟩, c)
  requireGap c
  return (t, c)

def endLine (c : Cursor) : Except Fault Cursor :=
  let c := c.skipSpaces
  let c := if c.isAt '#' then c.skipWhile (!isBreak ·) else c
  if c.isAtLineEnd then .ok c.takeBreak.2 else .error .malformed

def versionNumber (c : Cursor) : Except Fault (Int × Cursor) := do
  let (ds, c) := c.takeWhile Char.isDigit
  if ds.isEmpty then throw .malformed
  let n ← (Text.integerIn 10 ds).mapError .integer
  return (n, c)

def version (c : Cursor) : Except Fault (Directive × Cursor) := do
  let (major, c) ← versionNumber c.skipSpaces
  if !c.isAt '.' then throw .malformed
  let (_, c) ← versionNumber c.next
  requireGap c
  return (.version major, c)

def handleMeaning (c : Cursor) : Except Fault (Directive × Cursor) := do
  let (handle, c) ← tagHandle c.skipSpaces
  if !c.isAt ' ' then throw .malformed
  let (text, c) ← tagText c.skipSpaces
  requireGap c
  return (.tagHandle handle text, c)

def directive (c : Cursor) : Except Fault (Directive × Cursor) := do
  let (kind, c) ← name c.next
  requireGap c
  let (d, c) ← match kind with
    | "YAML" => version c
    | "TAG" => handleMeaning c
    | _ => pure (Directive.other, c.skipWhile (!isBreak ·))
  return (d, ← endLine c)

end PaymentUri.Yaml
