import PaymentUri.Text.Digit

namespace PaymentUri

inductive CalendarFault where
  | year (n : Nat)
  | month
  | day
  | hour
  | minute
  | second
  | offset (minutes : Int)
deriving DecidableEq

structure Date where
  year : Nat
  month : Nat
  day : Nat
deriving DecidableEq

structure Moment where
  date : Date
  hour : Nat
  minute : Nat
  second : Nat
  microsecond : Nat
  offset : Option Int
deriving DecidableEq

namespace Calendar

def isLeap (year : Nat) : Bool := year % 4 == 0 && (year % 100 != 0 || year % 400 == 0)

def monthLength (year month : Nat) : Nat :=
  if month = 2 then if isLeap year then 29 else 28
  else if [4, 6, 9, 11].contains month then 30 else 31

def minutesOfDay : Int := 1440

def stretchText (minutes : Int) : String :=
  let days := minutes / minutesOfDay
  let seconds := minutes % minutesOfDay * 60
  let parts := (if days = 0 then [] else ["days=" ++ toString days]) ++
    if seconds = 0 then [] else ["seconds=" ++ toString seconds]
  "datetime.timedelta(" ++ (if parts = [] then "0" else ", ".intercalate parts) ++ ")"

end Calendar

def CalendarFault.message : CalendarFault → String
  | year n => "year " ++ toString n ++ " is out of range"
  | month => "month must be in 1..12"
  | day => "day is out of range for month"
  | hour => "hour must be in 0..23"
  | minute => "minute must be in 0..59"
  | second => "second must be in 0..59"
  | offset minutes =>
      "offset must be a timedelta strictly between -timedelta(hours=24) and timedelta(hours=24), not " ++
        Calendar.stretchText minutes ++ "."

namespace Date

def make (year month day : Nat) : Except CalendarFault Date :=
  if year = 0 ∨ 9999 < year then .error (.year year)
  else if month = 0 ∨ 12 < month then .error .month
  else if day = 0 ∨ Calendar.monthLength year month < day then .error .day
  else .ok ⟨year, month, day⟩

def number (d : Date) : Nat :=
  let years := d.year - 1
  let months := (List.range' 1 (d.month - 1)).map (Calendar.monthLength d.year)
  365 * years + years / 4 - years / 100 + years / 400 + months.foldl (· + ·) 0 + d.day

def display (d : Date) : String :=
  "-".intercalate [Text.paddedNumber 4 d.year, Text.paddedNumber 2 d.month, Text.paddedNumber 2 d.day]

def numbers (d : Date) : List Nat := [d.year, d.month, d.day]

def shown (d : Date) : String :=
  "datetime.date(" ++ ", ".intercalate (d.numbers.map toString) ++ ")"

end Date

namespace Moment

def make (year month day hour minute second microsecond : Nat) (offset : Option Int) :
    Except CalendarFault Moment := do
  if let some minutes := offset then
    if Calendar.minutesOfDay ≤ minutes.natAbs then throw (.offset minutes)
  let date ← Date.make year month day
  if 24 ≤ hour then throw .hour
  if 60 ≤ minute then throw .minute
  if 60 ≤ second then throw .second
  return { date, hour, minute, second, microsecond, offset }

/-- The minutes from a fixed day, by the clock of the place, or by the common clock when the offset is
known. -/
def minutes (m : Moment) : Int :=
  Calendar.minutesOfDay * m.date.number + 60 * m.hour + m.minute - m.offset.getD 0

/-- Whether two moments are the same one. Without a known offset a moment is like no moment with
one. -/
def isSame (m n : Moment) : Bool :=
  m.offset.isSome == n.offset.isSome && m.minutes == n.minutes && m.second == n.second &&
    m.microsecond == n.microsecond

def offsetText (minutes : Int) : String :=
  (if minutes < 0 then "-" else "+") ++ Text.paddedNumber 2 (minutes.natAbs / 60) ++ ":" ++
    Text.paddedNumber 2 (minutes.natAbs % 60)

def display (m : Moment) : String :=
  let clock := ":".intercalate
    [Text.paddedNumber 2 m.hour, Text.paddedNumber 2 m.minute, Text.paddedNumber 2 m.second]
  m.date.display ++ " " ++ clock ++
    (if m.microsecond = 0 then "" else "." ++ Text.paddedNumber 6 m.microsecond) ++
    m.offset.elim "" offsetText

def offsetShown (minutes : Int) : String :=
  ", tzinfo=" ++ if minutes = 0 then "datetime.timezone.utc"
    else "datetime.timezone(" ++ Calendar.stretchText minutes ++ ")"

def shown (m : Moment) : String :=
  let fine := if m.microsecond = 0 then if m.second = 0 then [] else [m.second]
    else [m.second, m.microsecond]
  "datetime.datetime(" ++
    ", ".intercalate ((m.date.numbers ++ [m.hour, m.minute] ++ fine).map toString) ++
    m.offset.elim "" offsetShown ++ ")"

end Moment

end PaymentUri
