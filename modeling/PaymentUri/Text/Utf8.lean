import PaymentUri.Text.Quote

namespace PaymentUri.Text

inductive Utf8Reason where
  | start
  | continuation
  | cutOff
deriving DecidableEq

def Utf8Reason.message : Utf8Reason → String
  | start => "invalid start byte"
  | continuation => "invalid continuation byte"
  | cutOff => "unexpected end of data"

structure Utf8Fault where
  position : Nat
  bytes : List UInt8
  reason : Utf8Reason
deriving DecidableEq

def Utf8Fault.message (fault : Utf8Fault) : String :=
  let place := match fault.bytes with
    | [b] => "byte 0x" ++ String.ofList (paddedHex 2 b.toNat) ++ " in position " ++ toString fault.position
    | bs => "bytes in position " ++ toString fault.position ++ "-" ++ toString (fault.position + bs.length - 1)
  "'utf-8' codec can't decode " ++ place ++ ": " ++ fault.reason.message

structure ByteRange where
  low : UInt8
  high : UInt8

def ByteRange.contains (r : ByteRange) (b : UInt8) : Bool := r.low ≤ b && b ≤ r.high

def followers? (first : UInt8) : Option (List ByteRange) :=
  let any : ByteRange := ⟨0x80, 0xBF⟩
  if first < 0x80 then some []
  else if first < 0xC2 then none
  else if first < 0xE0 then some [any]
  -- neither overlong forms nor halves of pairs
  else if first < 0xF0 then
    some [⟨if first == 0xE0 then 0xA0 else 0x80, if first == 0xED then 0x9F else 0xBF⟩, any]
  else if first < 0xF5 then
    some [⟨if first == 0xF0 then 0x90 else 0x80, if first == 0xF4 then 0x8F else 0xBF⟩, any, any]
  else none

/-- Goes through bytes until they are no characters any more. The character that has begun at a position
has some bytes already, and the ranges are those of its other ones. -/
def firstFault (position : Nat) (begun : List UInt8) (ranges : List ByteRange) : List UInt8 → Utf8Fault
  | [] => ⟨position, begun, .cutOff⟩
  | b :: bs =>
      match ranges with
      | r :: ranges =>
          if !r.contains b then ⟨position, begun, .continuation⟩
          else if ranges.isEmpty then firstFault (position + begun.length + 1) [] [] bs
          else firstFault position (begun ++ [b]) ranges bs
      | [] =>
          match followers? b with
          | none => ⟨position, [b], .start⟩
          | some [] => firstFault (position + 1) [] [] bs
          | some ranges => firstFault position [b] ranges bs

def decode (bytes : ByteArray) : Except Utf8Fault String :=
  match String.fromUTF8? bytes with
  | some s => .ok s
  | none => .error (firstFault 0 [] [] bytes.data.toList)

end PaymentUri.Text
