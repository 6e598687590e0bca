import PaymentUri.Text.Digit

namespace PaymentUri.Text

/-- The value `digits * 10 ^ exponent`, with a sign of its own so that zero has one too. -/
structure Decimal where
  negative : Bool
  digits : Nat
  exponent : Int
deriving DecidableEq

def spanDigits (cs : List Char) : List Char × List Char := cs.span Char.isDigit

def ofDigits (ds : List Char) : Nat := Nat.ofDigitChars 10 ds 0

def digitCount (n : Nat) : Nat := (Nat.toDigits 10 n).length

def takeSign : List Char → Bool × List Char
  | '+' :: cs => (false, cs)
  | '-' :: cs => (true, cs)
  | cs => (false, cs)

def exponent? : List Char → Option Int
  | [] => some 0
  | c :: cs =>
      let (negative, ds) := takeSign cs
      if (c = 'e' ∨ c = 'E') ∧ ds ≠ [] ∧ ds.all Char.isDigit then
        some (if negative then -Int.ofNat (ofDigits ds) else Int.ofNat (ofDigits ds))
      else none

namespace Decimal

def read? (cs : List Char) : Option Decimal :=
  let (negative, cs) := takeSign cs
  let (whole, cs) := spanDigits cs
  let (fraction, cs) := match cs with
    | '.' :: cs => spanDigits cs
    | cs => ([], cs)
  if whole = [] ∧ fraction = [] then none
  else (exponent? cs).map fun e => ⟨negative, ofDigits (whole ++ fraction), e - fraction.length⟩

def topExponent (d : Decimal) : Int := d.exponent + digitCount d.digits - 1

def trimZeros : Nat → Decimal → Decimal
  | 0, d => d
  | n + 1, d =>
      if d.digits % 10 = 0 then trimZeros n { d with digits := d.digits / 10, exponent := d.exponent + 1 }
      else d

def toFloat (d : Decimal) : Float :=
  let magnitude :=
    if d.digits = 0 ∨ d.topExponent < -400 then 0
    else if 400 < d.topExponent then Float.ofScientific 1 false 400
    else Float.ofScientific d.digits (d.exponent < 0) d.exponent.natAbs
  if d.negative then -magnitude else magnitude

end Decimal

/-- The decisions in writing a decimal: when it is written without an exponent, depending on how
many digits stand before the point, and what an exponent looks like. -/
structure Layout where
  positional : Int → Bool
  wholeSuffix : String
  exponentMark : Char
  exponentWidth : Nat

def positionalText (wholeSuffix : String) (ds : List Char) (point : Int) : List Char :=
  if point ≤ 0 then '0' :: '.' :: List.replicate point.natAbs '0' ++ ds
  else
    let filled := ds ++ List.replicate (point.toNat - ds.length) '0'
    let fraction := filled.drop point.toNat
    filled.take point.toNat ++ if fraction = [] then wholeSuffix.toList else '.' :: fraction

def exponentText (mark : Char) (width : Nat) (ds : List Char) (exponent : Int) : List Char :=
  ds.take 1 ++ (if ds.length = 1 then [] else '.' :: ds.drop 1) ++
    mark :: (if exponent < 0 then '-' else '+') :: padded width (Nat.toDigits 10 exponent.natAbs)

def Layout.write (l : Layout) (d : Decimal) : String :=
  let ds := Nat.toDigits 10 d.digits
  let point := (ds.length : Int) + d.exponent
  let text := if l.positional point then positionalText l.wholeSuffix ds point
    else exponentText l.exponentMark l.exponentWidth ds (point - 1)
  String.ofList (if d.negative then '-' :: text else text)

end PaymentUri.Text
