import PaymentUri.Calendar
import PaymentUri.Text.Integer

namespace PaymentUri.Yaml

inductive Fault where
  | malformed
  | tooDeep
  | noCharacter
  | hugeCharacter
  | integer (fault : Text.IntegerFault)
  | real (shown : String)
  | hugePlace
  | noDigits
  | truth (word : String)
  | noMoment
  | momentOfMap
  | calendar (fault : CalendarFault)
deriving DecidableEq

namespace Fault

def deepMessage : String := "maximum recursion depth exceeded"

def noDigitsMessage : String := "string index out of range"

/-- What is told of a fault to somebody who only wants to hear of bad values. -/
def message? : Fault → Option String
  | noCharacter => some "chr() arg not in range(0x110000)"
  | integer fault => some fault.message
  | real shown => some ("could not convert string to float: " ++ shown)
  | calendar fault => some fault.message
  | _ => none

end Fault

def orMalformed {α : Type} (a? : Option α) : Except Fault α :=
  match a? with
  | some a => .ok a
  | none => .error .malformed

end PaymentUri.Yaml
