import PaymentUri.Text.Decimal
import PaymentUri.Text.Digit
import PaymentUri.Text.Split

namespace PaymentUri.Endpoint

open Text

def isOctet (cs : List Char) : Bool :=
  !cs.isEmpty && cs.length ≤ 3 && cs.all Char.isDigit && (cs.length == 1 || cs.head? != some '0') &&
    ofDigits cs < 256

def isFourOctets (cs : List Char) : Bool :=
  let parts := split '.' cs
  parts.length == 4 && parts.all isOctet

def isGroup (cs : List Char) : Bool :=
  !cs.isEmpty && cs.length ≤ 4 && cs.all fun c => (hexDigit? c).isSome

/-- An address of four octets at the end counts as two groups. -/
def expandLast (parts : List (List Char)) : Option (List (List Char)) :=
  let last := parts.getLastD []
  if !last.contains '.' then some parts
  else if isFourOctets last then some (parts.dropLast ++ [['0'], ['0']])
  else none

def gap? (parts : List (List Char)) : Option (List (List Char) × List (List Char)) :=
  let inner := parts.tail.dropLast
  (inner.findIdx? List.isEmpty).map fun i => (parts.take (i + 1), parts.drop (i + 2))

/-- An empty group at the edge is only half of the gap beside it. -/
def trimEdge (parts : List (List Char)) : List (List Char) :=
  if parts == [[]] then [] else parts

def isGroups (cs : List Char) : Bool :=
  match expandLast (split ':' cs) with
  | none => false
  | some parts =>
      3 ≤ parts.length && parts.length ≤ 9 &&
        match gap? parts with
        | none => parts.length == 8 && parts.all isGroup
        | some (high, low) =>
            let high := trimEdge high
            let low := trimEdge low
            -- a gap stands for one group at least
            high.length + low.length < 8 && high.all isGroup && low.all isGroup

def isGroupAddress (cs : List Char) : Bool :=
  match cut? '%' cs with
  | none => isGroups cs
  | some (groups, zone) => !zone.isEmpty && !zone.contains '%' && isGroups groups

def isFutureAddress (cs : List Char) : Bool :=
  match cut? '.' cs with
  | some ('v' :: version, rest) =>
      !version.isEmpty && version.all (fun c => (hexDigit? c).isSome) && !rest.isEmpty
  | _ => false

end PaymentUri.Endpoint
