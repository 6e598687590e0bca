import PaymentUri.Text.Digit
import PaymentUri.Text.Integer
import PaymentUri.Value

namespace PaymentUri.Json

inductive Token where
  | openList
  | closeList
  | openMap
  | closeMap
  | comma
  | colon
  | value (v : Value)

/-- What of a token has been read so far. The characters come last one first; those of a text are
code points, or halves of a pair that were escaped. -/
inductive Pending where
  | nothing
  | word (chars : List Char)
  | text (units : List Nat)
  | escape (units : List Nat)
  | digits (units : List Nat) (chars : List Char)

def isSpace (c : Char) : Bool := c == ' ' || c == '\t' || c == '\n' || c == '\r'

def punctuation? : Char → Option Token
  | '[' => some .openList
  | ']' => some .closeList
  | '\x7b' => some .openMap
  | '\x7d' => some .closeMap
  | ',' => some .comma
  | ':' => some .colon
  | _ => none

def escapedChar? : Char → Option Char
  | '"' => some '"'
  | '\\' => some '\\'
  | '/' => some '/'
  | 'b' => some '\x08'
  | 'f' => some '\x0c'
  | 'n' => some '\n'
  | 'r' => some '\r'
  | 't' => some '\t'
  | _ => none

/-- The characters of a list of units. Two halves make one character; a lone half is replaced. -/
def ofUnits : List Nat → List Char
  | [] => []
  | high :: low :: us =>
      if 0xD800 ≤ high ∧ high < 0xDC00 ∧ 0xDC00 ≤ low ∧ low < 0xE000 then
        Char.ofNat (0x10000 + 0x400 * (high - 0xD800) + (low - 0xDC00)) :: ofUnits us
      else (if 0xD800 ≤ high ∧ high < 0xE000 then '\uFFFD' else Char.ofNat high) ::
        ofUnits (low :: us)
  | [u] => [if 0xD800 ≤ u ∧ u < 0xE000 then '\uFFFD' else Char.ofNat u]

def isWhole (ds : List Char) : Bool :=
  !ds.isEmpty && ds.all Char.isDigit && (ds.length == 1 || ds.head? != some '0')

def number? (cs : List Char) : Option Value := do
  let (negative, size) := match cs with
    | '-' :: cs => (true, cs)
    | cs => (false, cs)
  let (whole, rest) := Text.spanDigits size
  if !isWhole whole then none
  else if rest = [] then
    if whole.length ≤ Text.maxDigits then
      let n := Int.ofNat (Text.ofDigits whole)
      some (.int (if negative then -n else n))
    else none
  else
    match rest with
    | '.' :: c :: _ => if !c.isDigit then none
    | '.' :: [] => none
    | _ => pure ()
    let d ← Text.Decimal.read? cs
    return .float d.toFloat

def word? (cs : List Char) : Option Value :=
  match String.ofList cs with
  | "null" => some .null
  | "true" => some (.bool true)
  | "false" => some (.bool false)
  | "NaN" => some (.float (0.0 / 0.0))
  | "Infinity" => some (.float (1.0 / 0.0))
  | "-Infinity" => some (.float (-1.0 / 0.0))
  | _ => number? cs

def endWord (chars : List Char) : Option Token := (word? chars.reverse).map .value

def enter (c : Char) : Pending × List Token :=
  if isSpace c then (.nothing, [])
  else if c = '"' then (.text [], [])
  else match punctuation? c with
    | some t => (.nothing, [t])
    | none => (.word [c], [])

def leaveWord (chars : List Char) (c : Char) : Option (Pending × List Token) :=
  if c = '"' then none
  else (endWord chars).map fun t => ((enter c).1, t :: (enter c).2)

def endDigits (units : List Nat) (chars : List Char) : Option (Pending × List Token) :=
  (Text.hexNumber? chars.reverse).map fun u => (.text (u :: units), [])

def feed : Pending → Char → Option (Pending × List Token)
  | .nothing, c => some (enter c)
  | .word chars, c =>
      if isSpace c || c = '"' || (punctuation? c).isSome then leaveWord chars c
      else some (.word (c :: chars), [])
  | .text units, c =>
      if c = '"' then some (.nothing, [.value (.text (String.ofList (ofUnits units.reverse)))])
      else if c = '\\' then some (.escape units, [])
      else if c.toNat < 0x20 then none
      else some (.text (c.toNat :: units), [])
  | .escape units, c =>
      if c = 'u' then some (.digits units [], [])
      else (escapedChar? c).map fun e => (.text (e.toNat :: units), [])
  | .digits units chars, c =>
      -- an escape has four digits
      if chars.length < 3 then some (.digits units (c :: chars), [])
      else endDigits units (c :: chars)

def finish : Pending → Option (List Token)
  | .nothing => some []
  | .word chars => (endWord chars).map ([·])
  | _ => none

end PaymentUri.Json
