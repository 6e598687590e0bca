namespace PaymentUri.Text.Base64

def sextet? (c : Char) : Option Nat :=
  if c.isUpper then some (c.toNat - 'A'.toNat)
  else if c.isLower then some (c.toNat - 'a'.toNat + 26)
  else if c.isDigit then some (c.toNat - '0'.toNat + 52)
  else if c == '+' then some 62
  else if c == '/' then some 63
  else none

def bytesOf : List Nat → List UInt8
  | a :: b :: c :: d :: rest =>
      .ofNat (4 * a + b / 16) :: .ofNat (16 * b + c / 4) :: .ofNat (64 * c + d) :: bytesOf rest
  | [a, b, c] => [.ofNat (4 * a + b / 16), .ofNat (16 * b + c / 4)]
  | [a, b] => [.ofNat (4 * a + b / 16)]
  | _ => []

/-- The groups of six bits of a text, behind some groups and some marks that fill up the last four of
them. Other characters are passed over. The marks that complete four groups end the text, and
otherwise the groups themselves must come in fours. -/
def sextets? (place marks : Nat) : List Char → Option (List Nat)
  | [] => if place = 0 then some [] else none
  | c :: cs =>
      if c == '=' then
        if place < 2 then sextets? place marks cs
        else if 4 ≤ place + marks + 1 then some []
        else sextets? place (marks + 1) cs
      else match sextet? c with
        | some n => (sextets? ((place + 1) % 4) 0 cs).map (n :: ·)
        | none => sextets? place marks cs

def decode? (cs : List Char) : Option (List UInt8) := (sextets? 0 0 cs).map bytesOf

end PaymentUri.Text.Base64
