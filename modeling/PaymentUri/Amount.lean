import PaymentUri.Text.Decimal
import PaymentUri.Text.Quote

namespace PaymentUri

inductive AmountError where
  | notDecimal (shown : String)
  | tooPrecise (shown : String)
  | tooLarge (shown : String)
  | tooManyCents (cents : Int)
deriving DecidableEq

namespace Amount

open Text

/-- The fractional digits of a coin. An amount is a whole number of the smallest unit, of which
`10 ^ places` make one coin. -/
def places : Nat := 8

def coin : Nat := Nat.pow 10 places

def cent : Nat := Nat.pow 10 (places - 2)

def maxUnitDigits : Nat := 40

end Amount

def AmountError.message : AmountError → String
  | notDecimal shown => "not a decimal number: " ++ shown
  | tooPrecise shown => shown ++ " has more than " ++ toString Amount.places ++ " fractional digits"
  | tooLarge shown => shown ++ " is too large"
  | tooManyCents cents => "cents must be below 100, got " ++ toString cents

namespace Amount

open Text

-- beyond these exponents a literal counts as no number at all
def representable (d : Decimal) : Prop :=
  d.topExponent ≤ 999999999999999999 ∧ -1999999999999999997 ≤ d.exponent

instance (d : Decimal) : Decidable (representable d) := inferInstanceAs (Decidable (_ ∧ _))

/-- The units of a decimal number of coins, if it has no fraction of a unit. Zeros count: a ninth
fractional digit is refused whatever it is. -/
def ofDecimal (shown : String) (d : Decimal) : Except AmountError Int :=
  if ¬ representable d then .error (.notDecimal shown)
  else
    let shift := d.exponent + places
    if shift < 0 then .error (.tooPrecise shown)
    else if maxUnitDigits < digitCount d.digits + shift then .error (.tooLarge shown)
    else
      let units := Int.ofNat (d.digits * Nat.pow 10 shift.toNat)
      .ok (if d.negative then -units else units)

def parse (text : String) : Except AmountError Int :=
  match Decimal.read? text.toList with
  | none => .error (.notDecimal (quoted text))
  | some d => ofDecimal (quoted text) d

/-- Whole coins and hundredths of a coin. The hundredths may be negative. -/
def combine (whole cents : Int) : Except AmountError Int :=
  if 100 ≤ cents then .error (.tooManyCents cents) else .ok (whole * coin + cents * cent)

def wholeText (amount : Int) : List Char :=
  let digits := Nat.toDigits 10 (amount.natAbs / coin)
  if amount < 0 then '-' :: digits else digits

def fractionText (amount : Int) : List Char :=
  let digits := padded places (Nat.toDigits 10 (amount.natAbs % coin))
  (digits.reverse.dropWhile (· == '0')).reverse

def plain (amount : Int) : String :=
  let fraction := fractionText amount
  String.ofList (wholeText amount ++ if fraction = [] then [] else '.' :: fraction)

def friendly (amount : Int) : String :=
  let fraction := fractionText amount
  String.ofList (wholeText amount ++ '.' :: fraction ++ List.replicate (2 - fraction.length) '0')

def toDecimal (amount : Int) : Decimal :=
  Decimal.trimZeros places ⟨amount < 0, amount.natAbs, -places⟩

/-- Positional unless six or more zeros would follow the point. -/
def decimalLayout : Layout where
  positional point := -6 < point
  wholeSuffix := ""
  exponentMark := 'E'
  exponentWidth := 1

def decimalText (amount : Int) : String := decimalLayout.write (toDecimal amount)

end Amount

end PaymentUri
