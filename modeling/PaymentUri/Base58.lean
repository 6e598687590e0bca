import PaymentUri.Digest

namespace PaymentUri.Base58

def alphabet : List Char := "123456789ABCDEFGHJKLMNPQRSTUVWXYZabcdefghijkmnopqrstuvwxyz".toList

inductive Fault where
  | badCharacter (c : Char)
  | tooShort
  | badChecksum
deriving DecidableEq

def digit (n : Nat) : Char := alphabet.getD n '1'

def value? (c : Char) : Option Nat := alphabet.findIdx? (· == c)

def lowDigits (base : Nat) : Nat → Nat → List Nat
  | 0, _ => []
  | count + 1, n => if n = 0 then [] else n % base :: lowDigits base count (n / base)

/-- The digits of a number, the last one first; none for zero. A number has no more digits than its
value. -/
def digitsRev (base n : Nat) : List Nat := lowDigits base n n

def ofDigits (base : Nat) (ds : List Nat) : Nat := ds.foldl (fun n d => base * n + d) 0

/-- Bytes as text. A leading zero byte is a leading digit one. -/
def encode (bytes : List UInt8) : String :=
  let zeros := bytes.takeWhile (· == 0)
  let number := ofDigits 256 (bytes.map UInt8.toNat)
  String.ofList (List.replicate zeros.length '1' ++ (digitsRev 58 number).reverse.map digit)

def values : List Char → Except Fault (List Nat)
  | [] => .ok []
  | c :: cs =>
      match value? c with
      | none => .error (.badCharacter c)
      | some d => (values cs).map (d :: ·)

def decode (text : String) : Except Fault (List UInt8) := do
  let ds ← values text.toList
  let ones := text.toList.takeWhile (· == '1')
  let number := ofDigits 58 ds
  return List.replicate ones.length 0 ++ (digitsRev 256 number).reverse.map UInt8.ofNat

def checksumLength : Nat := 4

def checksum (bytes : List UInt8) : List UInt8 :=
  (Digest.hash (Digest.hash bytes)).take checksumLength

def encodeChecked (version : UInt8) (payload : List UInt8) : String :=
  let bytes := version :: payload
  encode (bytes ++ checksum bytes)

def decodeChecked (text : String) : Except Fault (UInt8 × List UInt8) := do
  let raw ← decode text
  let size := raw.length - checksumLength
  match raw.take size with
  | [] => throw .tooShort
  | version :: payload =>
      if checksum (version :: payload) = raw.drop size then return (version, payload)
      else throw .badChecksum

end PaymentUri.Base58
