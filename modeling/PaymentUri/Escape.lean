import PaymentUri.Text.Digit

namespace PaymentUri.Escape

def isUnreserved (c : Char) : Bool :=
  c.isAlphanum || c == '-' || c == '.' || c == '_' || c == '~'

def hexDigit (n : Nat) : Char := (Nat.digitChar n).toUpper

def encodeByte (b : UInt8) : List Char :=
  let c := Char.ofNat b.toNat
  if isUnreserved c then [c] else ['%', hexDigit (b.toNat / 16), hexDigit (b.toNat % 16)]

def encode (text : String) : String :=
  String.ofList (text.toByteArray.data.toList.flatMap encodeByte)

def byte? (a b : Char) : Option UInt8 := do
  return UInt8.ofNat (16 * (← Text.hexDigit? a) + (← Text.hexDigit? b))

/-- The bytes that the value of a field stands for. A plus sign is a space, and a percent sign
without two digits behind it is itself. -/
def bytes : List Char → List UInt8
  | [] => []
  | '+' :: cs => 0x20 :: bytes cs
  | '%' :: a :: b :: cs =>
      match byte? a b with
      | some octet => octet :: bytes cs
      | none => 0x25 :: bytes (a :: b :: cs)
  | c :: cs => String.utf8EncodeChar c ++ bytes cs

def decode? (text : String) : Option String :=
  String.fromUTF8? ⟨(bytes text.toList).toArray⟩

end PaymentUri.Escape
