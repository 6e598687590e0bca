import PaymentUri.Text.Decimal
import PaymentUri.Value

namespace PaymentUri.Yaml

structure Clock where
  hour : Nat
  minute : Nat
  second : Nat
  microsecond : Nat
  offset : Option Int

structure Stamp where
  year : Nat
  month : Nat
  day : Nat
  clock : Option Clock

namespace Stamp

abbrev Reader := StateT (List Char) Option

def digits (least most : Nat) : Reader (List Char) := fun cs =>
  let ds := (cs.take most).takeWhile Char.isDigit
  if ds.length < least then none else some (ds, cs.drop ds.length)

def number (least most : Nat) : Reader Nat := Text.ofDigits <$> digits least most

def mark (p : Char → Bool) : Reader Char
  | c :: cs => if p c then some (c, cs) else none
  | [] => none

def accept (m : Char) : Reader Bool
  | c :: cs => if c == m then some (true, cs) else some (false, c :: cs)
  | [] => some (false, [])

def isBlank (c : Char) : Bool := c == ' ' || c == '\t'

def blanks : Reader Unit := modify (List.dropWhile isBlank)

def gap : Reader Unit := do
  let c ← mark fun c => c == 'T' || c == 't' || isBlank c
  if isBlank c then blanks

def readFraction : Reader Nat := do
  if !(← accept '.') then return 0
  let ds ← digits 0 (← get).length
  return Text.ofDigits ((ds ++ List.replicate 6 '0').take 6)

def readOffset : Reader (Option Int) := do
  if (← get).isEmpty then return none
  blanks
  if ← accept 'Z' then return some 0
  let sign ← mark fun c => c == '+' || c == '-'
  let hours ← number 1 2
  let minutes ← if ← accept ':' then number 2 2 else pure 0
  let size := Int.ofNat (60 * hours + minutes)
  return some (if sign == '-' then -size else size)

def readClock : Reader Clock := do
  gap
  let hour ← number 1 2
  let _ ← mark (· == ':')
  let minute ← number 2 2
  let _ ← mark (· == ':')
  let second ← number 2 2
  let microsecond ← readFraction
  return { hour, minute, second, microsecond, offset := ← readOffset }

def read : Reader Stamp := do
  let year ← number 4 4
  let _ ← mark (· == '-')
  let month ← number 1 2
  let _ ← mark (· == '-')
  let day ← number 1 2
  let clock ← if (← get).isEmpty then pure none else some <$> readClock
  return { year, month, day, clock }

def value (s : Stamp) : Except CalendarFault Value :=
  match s.clock with
  | none => (Date.make s.year s.month s.day).map .date
  | some c =>
      (Moment.make s.year s.month s.day c.hour c.minute c.second c.microsecond c.offset).map .moment

end Stamp

def stamp? (cs : List Char) : Option Stamp :=
  match Stamp.read.run cs with
  | some (s, []) => some s
  | _ => none

end PaymentUri.Yaml
