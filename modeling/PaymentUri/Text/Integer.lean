import PaymentUri.Text.Blank
import PaymentUri.Text.Digit
import PaymentUri.Text.Quote

namespace PaymentUri.Text

/-- Longer strings of decimal digits are neither read nor written as integers. -/
def maxDigits : Nat := 4300

def digitLimit : String :=
  "Exceeds the limit (" ++ toString maxDigits ++ " digits) for integer string conversion"

def limitAdvice : String := "; use sys.set_int_max_str_digits() to increase the limit"

def isWritable (n : Int) : Bool := n.natAbs < Nat.pow 10 maxDigits

def unwritableMessage : String := digitLimit ++ limitAdvice

inductive IntegerFault where
  | invalid (base : Nat) (shown : String)
  | tooLong (digits : Nat)
deriving DecidableEq

def IntegerFault.message : IntegerFault → String
  | invalid base shown =>
      "invalid literal for int() with base " ++ toString base ++ ": " ++
        String.ofList (shown.toList.take 200)
  | tooLong digits =>
      digitLimit ++ ": value has " ++ toString digits ++ " digits" ++ limitAdvice

def digitIn? (base : Nat) (c : Char) : Option Nat :=
  let letter := if c.isAlpha then some (c.toLower.toNat - 'a'.toNat + 10) else none
  ((digit? c).or letter).filter (· < base)

def digitValues? (base : Nat) : List Char → Option (List Nat)
  | [] => none
  | [c] => (digitIn? base c).map ([·])
  | c :: '_' :: cs => do return (← digitIn? base c) :: (← digitValues? base cs)
  | c :: cs => do return (← digitIn? base c) :: (← digitValues? base cs)

def baseMark? : Nat → Option Char
  | 2 => some 'b'
  | 8 => some 'o'
  | 16 => some 'x'
  | _ => none

def dropBaseMark (base : Nat) : List Char → List Char
  | '0' :: mark :: cs =>
      if baseMark? base == some mark.toLower then if cs.head? == some '_' then cs.tail else cs
      else '0' :: mark :: cs
  | cs => cs

/-- The number that digits of a base spell. Only in base ten is their number limited, and too many of
them are told before anything behind them. -/
def naturalIn (base : Nat) (fault : IntegerFault) (cs : List Char) : Except IntegerFault Nat :=
  let (run, rest) := (dropBaseMark base cs).span fun c => c == '_' || (digitIn? base c).isSome
  match digitValues? base run with
  | none => .error fault
  | some ds =>
      if base = 10 ∧ maxDigits < ds.length then .error (.tooLong ds.length)
      else if rest = [] then .ok (ds.foldl (fun n d => base * n + d) 0)
      else .error fault

def integerIn (base : Nat) (cs : List Char) : Except IntegerFault Int :=
  let natural := naturalIn base (.invalid base (quoted (String.ofList cs)))
  match trim isWhite cs with
  | '+' :: cs => (natural cs).map Int.ofNat
  | '-' :: cs => (natural cs).map fun n => -Int.ofNat n
  | cs => (natural cs).map Int.ofNat

def integer? (s : String) : Option Int := (integerIn 10 s.toList).toOption

end PaymentUri.Text
