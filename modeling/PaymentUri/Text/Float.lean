import PaymentUri.Text.Blank
import PaymentUri.Text.Decimal
import PaymentUri.Text.Digit

namespace PaymentUri.Text

def fractionOf (x : Float) : Nat × Nat :=
  let bits := x.toBits
  let exponent := ((bits >>> 52) &&& 0x7FF).toNat
  let mantissa := (bits &&& 0xFFFFFFFFFFFFF).toNat
  -- the smallest numbers lack the bit in front of the mantissa
  let (m, e) := if exponent = 0 then (mantissa, 1) else (Nat.pow 2 52 + mantissa, exponent)
  if e < 1075 then (m, Nat.pow 2 (1075 - e)) else (m * Nat.pow 2 (e - 1075), 1)

/-- The least `k` for which a positive fraction lies below `10 ^ k`. -/
def scale (num den : Nat) : Int :=
  if den ≤ num then digitCount (num / den)
  else
    let j := digitCount (den / num)
    if den ≤ num * Nat.pow 10 (j - 1) then 2 - j else 1 - j

def neighbours (num den n : Nat) : List Decimal :=
  let exponent := scale num den - n
  let factor := Nat.pow 10 exponent.natAbs
  let (a, b) := if exponent < 0 then (num * factor, den) else (num, den * factor)
  let below : Decimal := ⟨false, a / b, exponent⟩
  let above : Decimal := ⟨false, a / b + 1, exponent⟩
  let rest := 2 * (a % b)
  if rest < b ∨ rest = b ∧ a / b % 2 = 0 then [below, above] else [above, below]

/-- The decimal with the fewest digits that reads back as a positive finite number. Seventeen
always suffice. -/
def shortest (x : Float) : Decimal :=
  let (num, den) := fractionOf x
  let found := (List.range 17).findSome? fun n =>
    (neighbours num den (n + 1)).find? fun d => d.toFloat == x
  (found.getD ⟨false, num / den, 0⟩).trimZeros 17

def floatLayout : Layout where
  positional point := -4 < point && point ≤ 16
  wholeSuffix := ".0"
  exponentMark := 'e'
  exponentWidth := 2

def ofFloat (x : Float) : String :=
  if x.isNaN then "nan"
  else
    let text := if x.isInf then "inf" else if x == 0 then "0.0" else floatLayout.write (shortest x.abs)
    if (x.toBits >>> 63) == 1 then "-" ++ text else text

def infinity : Float := 1.0 / 0.0

def notANumber : Float := 0.0 / 0.0

def plainDigit (c : Char) : Char := (digit? c).elim c fun d => Char.ofNat ('0'.toNat + d)

/-- The binary number that a text spells in small letters: a decimal in the digits of any script, or a
name. Surrounding white space does not count. -/
def float? (cs : List Char) : Option Float :=
  let cs := (trim isWhite cs).map plainDigit
  let (negative, size) := takeSign cs
  let signed (x : Float) : Float := if negative then -x else x
  match String.ofList size with
  | "inf" | "infinity" => some (signed infinity)
  | "nan" => some (signed notANumber)
  | _ => (Decimal.read? cs).map Decimal.toFloat

def truncate (x : Float) : Int :=
  let (num, den) := fractionOf x
  if x < 0 then -Int.ofNat (num / den) else Int.ofNat (num / den)

end PaymentUri.Text
