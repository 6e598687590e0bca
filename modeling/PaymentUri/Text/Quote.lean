import PaymentUri.Text.Digit
import PaymentUri.Text.Printable

namespace PaymentUri.Text

def hexDigits (n : Nat) : List Char := Nat.toDigits 16 n

def paddedHex (width n : Nat) : List Char := padded width (hexDigits n)

def shortEscape? (mark c : Char) : Option (List Char) :=
  if c = mark ∨ c = '\\' then some ['\\', c]
  else if c = '\n' then some ['\\', 'n']
  else if c = '\r' then some ['\\', 'r']
  else if c = '\t' then some ['\\', 't']
  else none

def escaped (mark c : Char) : List Char :=
  if let some e := shortEscape? mark c then e
  else if isPrintable c then [c]
  else if c.toNat < 0x100 then '\\' :: 'x' :: paddedHex 2 c.toNat
  else if c.toNat < 0x10000 then '\\' :: 'u' :: paddedHex 4 c.toNat
  else '\\' :: 'U' :: paddedHex 8 c.toNat

/-- Double marks only for a text that holds single ones and no double one. -/
def quotationMark (cs : List Char) : Char :=
  if '\'' ∈ cs ∧ '"' ∉ cs then '"' else '\''

def quoted (s : String) : String :=
  let mark := quotationMark s.toList
  String.ofList (mark :: s.toList.flatMap (escaped mark) ++ [mark])

def quotedBytes (bytes : List UInt8) : String :=
  let cs := bytes.map fun b => Char.ofNat b.toNat
  let mark := quotationMark cs
  let write (c : Char) : List Char :=
    if c.toNat < 0x80 then escaped mark c else '\\' :: 'x' :: paddedHex 2 c.toNat
  String.ofList ('b' :: mark :: cs.flatMap write ++ [mark])

end PaymentUri.Text
