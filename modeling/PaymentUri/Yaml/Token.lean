import PaymentUri.Yaml.Block
import PaymentUri.Yaml.Property

namespace PaymentUri.Yaml

/-- A piece of a text. The last kind stands where the text cannot be read on. -/
inductive Token where
  | directive (d : Directive)
  | documentStart
  | documentEnd
  | blockSequence
  | blockMapping
  | blockEnd
  | blockEntry
  | flowSequence
  | flowSequenceEnd
  | flowMapping
  | flowMappingEnd
  | flowEntry
  | key
  | value
  | reference (name : String)
  | anchor (name : String)
  | tag (t : Tag)
  | scalar (plain : Bool) (text : String)
  | stop (fault : Fault)
deriving DecidableEq

/-- A token that is a key if a colon follows on the same line. -/
structure KeyPlace where
  level : Nat
  position : Nat
  required : Bool
  index : Nat
  line : Nat
  column : Nat

structure Scanner where
  cursor : Cursor
  tokens : List Token
  count : Nat
  flowLevel : Nat
  indent : Int
  indents : List Int
  keyAllowed : Bool
  places : List KeyPlace

namespace Scanner

def start (text : List Char) : Scanner :=
  ⟨Cursor.start (match text with
    | '\uFEFF' :: cs => cs
    | cs => cs), [], 0, 0, -1, [], true, []⟩

def add (s : Scanner) (t : Token) : Scanner :=
  { s with tokens := t :: s.tokens, count := s.count + 1 }

def move (s : Scanner) (n : Nat) : Scanner := { s with cursor := s.cursor.skip n }

def inFlow (s : Scanner) : Bool := s.flowLevel != 0

def skipToToken : Nat → Scanner → Scanner
  | 0, s => s
  | fuel + 1, s =>
      let c := s.cursor.skipSpaces
      let c := if c.isAt '#' then c.skipWhile (!isBreak ·) else c
      if c.isAtBreak then
        -- outside brackets a key may begin on a new line
        skipToToken fuel { s with cursor := c.takeBreak.2, keyAllowed := s.keyAllowed || !s.inFlow }
      else { s with cursor := c }

/-- Gives up the place of a key at the present level. It must not have been one where only a key
can stand. -/
def dropPlace (s : Scanner) : Except Fault Scanner :=
  if s.places.any fun p => p.level == s.flowLevel && p.required then .error .malformed
  else .ok { s with places := s.places.filter fun p => p.level != s.flowLevel }

/-- A key and its colon stand on one line, at most 1024 characters apart. -/
def isStale (s : Scanner) (p : KeyPlace) : Bool :=
  p.line != s.cursor.line || p.index + 1024 < s.cursor.index

def dropStale (s : Scanner) : Except Fault Scanner :=
  if s.places.any fun p => s.isStale p && p.required then .error .malformed
  else .ok { s with places := s.places.filter fun p => !s.isStale p }

def notePlace (s : Scanner) : Except Fault Scanner :=
  if !s.keyAllowed then .ok s
  else do
    let s ← s.dropPlace
    let c := s.cursor
    let p : KeyPlace := ⟨s.flowLevel, s.count, !s.inFlow && s.indent == c.column, c.index,
      c.line, c.column⟩
    return { s with places := p :: s.places }

def unwind (column : Int) : List Int → Scanner → Scanner
  | [], s => s
  | outer :: indents, s =>
      if column < s.indent then
        unwind column indents { s.add .blockEnd with indent := outer, indents := indents }
      else s

def unwindTo (s : Scanner) (column : Int) : Scanner :=
  if s.inFlow then s else unwind column s.indents s

def insert (s : Scanner) (position : Nat) (t : Token) : Scanner :=
  { s with tokens := s.tokens.insertIdx (s.count - position) t, count := s.count + 1 }

def openBlock (s : Scanner) (t : Token) (column : Nat) (position : Nat) : Scanner :=
  if s.indent < column then
    { s.insert position t with indent := column, indents := s.indent :: s.indents }
  else s

def leaveBlocks (s : Scanner) : Except Fault Scanner := do
  let s ← (s.unwindTo (-1)).dropPlace
  return { s with keyAllowed := false }

def separator (s : Scanner) (t : Token) : Except Fault Scanner := do
  return ((← s.leaveBlocks).move 3).add t

def directive (s : Scanner) : Except Fault Scanner := do
  let s ← s.leaveBlocks
  let (d, c) ← Yaml.directive s.cursor
  return { s with cursor := c }.add (.directive d)

def openFlow (s : Scanner) (t : Token) : Except Fault Scanner := do
  let s ← s.notePlace
  return ({ s with flowLevel := s.flowLevel + 1, keyAllowed := true }.move 1).add t

def closeFlow (s : Scanner) (t : Token) : Except Fault Scanner := do
  let s ← s.dropPlace
  if s.flowLevel = 0 then throw .malformed
  return ({ s with flowLevel := s.flowLevel - 1, keyAllowed := false }.move 1).add t

def flowEntry (s : Scanner) : Except Fault Scanner := do
  let s ← s.dropPlace
  return ({ s with keyAllowed := true }.move 1).add .flowEntry

def blockEntry (s : Scanner) : Except Fault Scanner := do
  if !s.inFlow && !s.keyAllowed then throw .malformed
  let s := if s.inFlow then s else s.openBlock .blockSequence s.cursor.column s.count
  let s ← s.dropPlace
  return ({ s with keyAllowed := true }.move 1).add .blockEntry

def explicitKey (s : Scanner) : Except Fault Scanner := do
  if !s.inFlow && !s.keyAllowed then throw .malformed
  let s := if s.inFlow then s else s.openBlock .blockMapping s.cursor.column s.count
  let s ← s.dropPlace
  return ({ s with keyAllowed := !s.inFlow }.move 1).add .key

def value (s : Scanner) : Except Fault Scanner := do
  match s.places.find? fun p => p.level == s.flowLevel with
  | some p =>
      -- the tokens of the key were read before it was known to be one
      let s := { s.insert p.position .key with
        places := s.places.filter fun q => q.level != s.flowLevel }
      let s := if s.inFlow then s else s.openBlock .blockMapping p.column p.position
      return ({ s with keyAllowed := false }.move 1).add .value
  | none =>
      if !s.inFlow && !s.keyAllowed then throw .malformed
      let s := if s.inFlow then s else s.openBlock .blockMapping s.cursor.column s.count
      return ({ s with keyAllowed := !s.inFlow }.move 1).add .value

def keyLike (s : Scanner) (read : Cursor → Except Fault (Token × Cursor)) : Except Fault Scanner := do
  let s ← s.notePlace
  let (t, c) ← read s.cursor
  return { s with keyAllowed := false, cursor := c }.add t

def reference (c : Cursor) : Except Fault (Token × Cursor) :=
  (anchorName c).map fun p => (.reference p.1, p.2)

def anchor (c : Cursor) : Except Fault (Token × Cursor) :=
  (anchorName c).map fun p => (.anchor p.1, p.2)

def tag (c : Cursor) : Except Fault (Token × Cursor) := (Yaml.tag c).map fun p => (.tag p.1, p.2)

def quoted (mark : Char) (c : Cursor) : Except Fault (Token × Cursor) :=
  (quotedText mark c.fuel [] c.next).map fun p => (.scalar false (String.ofList p.1), p.2)

def block (s : Scanner) (folded : Bool) : Except Fault Scanner := do
  let s ← s.dropPlace
  let (text, c) ← orMalformed (blockText folded s.indent s.cursor.next)
  return { s with keyAllowed := true, cursor := c }.add (.scalar false (String.ofList text))

def plain (s : Scanner) : Except Fault Scanner := do
  let s ← s.notePlace
  let (text, broken, c) :=
    plainText s.inFlow (s.indent + 1) s.cursor.fuel [] false s.cursor
  return { s with keyAllowed := broken, cursor := c }.add (.scalar true (String.ofList text))

def indicators : List Char := "-?:,[]\x7b\x7d#&*!|>'\"%@\x60".toList

def isAtPlain (s : Scanner) (ch : Char) : Bool :=
  !indicators.contains ch && ch != '\t' ||
    !s.cursor.isSpaceAt 1 && (ch == '-' || !s.inFlow && (ch == '?' || ch == ':'))

def token (s : Scanner) (ch : Char) : Except Fault Scanner :=
  let c := s.cursor
  if c.column == 0 && ch == '%' then s.directive
  else if c.column == 0 && c.isAtMark '-' then s.separator .documentStart
  else if c.column == 0 && c.isAtMark '.' then s.separator .documentEnd
  else if ch == '[' then s.openFlow .flowSequence
  else if ch == '\x7b' then s.openFlow .flowMapping
  else if ch == ']' then s.closeFlow .flowSequenceEnd
  else if ch == '\x7d' then s.closeFlow .flowMappingEnd
  else if ch == ',' then s.flowEntry
  else if ch == '-' && c.isSpaceAt 1 then s.blockEntry
  else if ch == '?' && (s.inFlow || c.isSpaceAt 1) then s.explicitKey
  else if ch == ':' && (s.inFlow || c.isSpaceAt 1) then s.value
  else if ch == '*' then s.keyLike reference
  else if ch == '&' then s.keyLike anchor
  else if ch == '!' then s.keyLike tag
  else if ch == '|' && !s.inFlow then s.block false
  else if ch == '>' && !s.inFlow then s.block true
  else if ch == '\'' || ch == '"' then s.keyLike (quoted ch)
  else if s.isAtPlain ch then s.plain
  else .error .malformed

def advance (s : Scanner) : Except Fault (Bool × Scanner) := do
  let s ← (skipToToken s.cursor.fuel s).dropStale
  let s := s.unwindTo s.cursor.column
  match s.cursor.rest with
  | [] => return (false, ← s.leaveBlocks)
  | ch :: _ => return (true, ← s.token ch)

-- in front of a place a mark for a key may still be put
def settled (s : Scanner) : Nat := s.places.foldl (fun n p => min n p.position) s.count

def stopped (s : Scanner) (fault : Fault) : List Token :=
  (.stop fault :: s.tokens.drop (s.count - s.settled)).reverse

def run : Nat → Scanner → List Token
  | 0, s => s.stopped .malformed
  | fuel + 1, s =>
      match s.dropStale with
      | .error fault => s.stopped fault
      | .ok s =>
          match s.advance with
          | .error fault => s.stopped fault
          | .ok (true, s) => run fuel s
          | .ok (false, s) => s.tokens.reverse

end Scanner

def isLegal (ch : Char) : Bool :=
  let n := ch.toNat
  [0x09, 0x0A, 0x0D, 0x85].contains n || 0x20 ≤ n && n ≤ 0x7E || 0xA0 ≤ n && n ≤ 0xD7FF ||
    0xE000 ≤ n && n ≤ 0xFFFD || 0x10000 ≤ n

def tokens (text : List Char) : List Token :=
  if text.all isLegal then (Scanner.start text).run (text.length + 1)
  else [.stop .malformed]

end PaymentUri.Yaml
