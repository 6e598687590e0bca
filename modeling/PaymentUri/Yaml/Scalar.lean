import PaymentUri.Text.Base64
import PaymentUri.Text.Case
import PaymentUri.Yaml.Fault
import PaymentUri.Yaml.Resolve

namespace PaymentUri.Yaml

open Text

def dropMarks (cs : List Char) : List Char := cs.filter (· != '_')

/-- A number without its sign, in the base that its beginning tells. Colons separate places in base
sixty. -/
def whole (cs : List Char) : Except IntegerFault Int :=
  match cs with
  | ['0'] => .ok 0
  | '0' :: 'b' :: ds => integerIn 2 ds
  | '0' :: 'x' :: ds => integerIn 16 ds
  | '0' :: _ => integerIn 8 cs
  | _ => do
      let places ← (split ':' cs).mapM (integerIn 10)
      return places.foldl (fun n p => 60 * n + p) 0

def integer (text : String) : Except Fault Value := do
  let (negative, size) := takeSign (dropMarks text.toList)
  if size = [] then throw .noDigits
  let n ← (whole size).mapError .integer
  return .int (if negative then -n else n)

def place (cs : List Char) : Except Fault Float :=
  match float? cs with
  | some x => .ok x
  | none => .error (.real (quoted (String.ofList cs)))

def addPlaces (unit : Nat) (sum : Float) : List Float → Except Fault Float
  | [] => .ok sum
  | x :: xs =>
      if Nat.pow 2 1024 ≤ unit then .error .hugePlace
      else addPlaces (60 * unit) (sum + x * Float.ofNat unit) xs

def realSize (cs : List Char) : Except Fault Float := do
  match ← (split ':' cs).mapM place with
  | [x] => return x
  | places => addPlaces 1 0 places.reverse

def real (text : String) : Except Fault Value := do
  let cs := lower (dropMarks text.toList)
  let (negative, size) := takeSign cs
  if cs = [] then throw .noDigits
  match String.ofList size with
  | ".nan" => return .float notANumber
  | ".inf" => return .float (if negative then -infinity else infinity)
  | _ =>
      let x ← realSize size
      return .float (if negative then -x else x)

def truth (text : String) : Except Fault Value :=
  let word := String.ofList (lower text.toList)
  if ["yes", "true", "on"].contains word then .ok (.bool true)
  else if ["no", "false", "off"].contains word then .ok (.bool false)
  else .error (.truth word)

def binary (text : String) : Except Fault Value := do
  if !text.toList.all fun c => c.toNat < 0x80 then throw .malformed
  return .bytes (← orMalformed (Base64.decode? text.toList))

def moment (text : String) : Except Fault Value :=
  match stamp? (lineOf text.toList) with
  | none => .error .noMoment
  | some s => s.value.mapError .calendar

def scalarValue (kind : Kind) (text : String) : Except Fault Value :=
  match kind with
  | .null => .ok .null
  | .truth => truth text
  | .integer => integer text
  | .real => real text
  | .binary => binary text
  | .moment => moment text
  | .text => .ok (.text text)
  | _ => .error .malformed

end PaymentUri.Yaml
