import PaymentUri.Endpoint.Host
import PaymentUri.Text.Blank
import PaymentUri.Text.Case
import PaymentUri.Text.Quote

namespace PaymentUri.Endpoint

open Text

inductive UrlFault where
  | brackets
  | futureAddress
  | noAddress (shown : String)
  | octetsInBrackets
  | deceptive (authority : String)
deriving DecidableEq

def UrlFault.message : UrlFault → String
  | brackets => "Invalid IPv6 URL"
  | futureAddress => "IPvFuture address is invalid"
  | noAddress shown => shown ++ " does not appear to be an IPv4 or IPv6 address"
  | octetsInBrackets => "An IPv4 address cannot be in brackets"
  | deceptive authority =>
      "netloc '" ++ authority ++ "' contains invalid characters under NFKC normalization"

structure Url where
  scheme : String
  authority : List Char

def isSchemeChar (c : Char) : Bool := c.isAlphanum || c == '+' || c == '-' || c == '.'

def splitScheme (cs : List Char) : String × List Char :=
  match cut? ':' cs with
  | some (c :: before, rest) =>
      if c.isAlpha && before.all isSchemeChar then (lowerAscii (String.ofList (c :: before)), rest)
      else ("", cs)
  | _ => ("", cs)

def authorityOf : List Char → List Char
  | '/' :: '/' :: cs => cs.takeWhile fun c => !(c == '/' || c == '?' || c == '#')
  | _ => []

/-- The characters that have a delimiter in their compatibility form. -/
def deceptiveChars : List Nat :=
  [0x2047, 0x2048, 0x2049, 0x2100, 0x2101, 0x2105, 0x2106, 0x2A74, 0xFE13, 0xFE16, 0xFE55, 0xFE56,
    0xFE5F, 0xFE6B, 0xFF03, 0xFF0F, 0xFF1A, 0xFF1F, 0xFF20]

def checkBracketed (cs : List Char) : Except UrlFault Unit :=
  if cs.head? == some 'v' then if isFutureAddress cs then .ok () else .error .futureAddress
  else if isFourOctets cs then .error .octetsInBrackets
  else if isGroupAddress cs then .ok ()
  else .error (.noAddress (quoted (String.ofList cs)))

/-- Brackets come in pairs, enclose an address and are followed by nothing or a colon. -/
def checkBrackets (authority : List Char) : Except UrlFault Unit :=
  if authority.contains '[' != authority.contains ']' then .error .brackets
  else if !authority.contains '[' then .ok ()
  else
    let place := afterLast '@' authority
    match cut? '[' place with
    | none => checkBracketed (cut ':' place).1
    | some (before, rest) =>
        let (inside, behind) := cut ']' rest
        if !before.isEmpty || !(behind.isEmpty || behind.head? == some ':') then .error .brackets
        else checkBracketed inside

def Url.read (text : String) : Except UrlFault Url := do
  let cs := (text.toList.dropWhile (·.toNat ≤ 0x20)).filter fun c =>
    !(c == '\t' || c == '\r' || c == '\n')
  let (scheme, rest) := splitScheme cs
  let authority := authorityOf rest
  checkBrackets authority
  if authority.any fun c => deceptiveChars.contains c.toNat then
    throw (.deceptive (String.ofList authority))
  return ⟨scheme, authority⟩

def Url.place (u : Url) : List Char × List Char :=
  let place := afterLast '@' u.authority
  match cut? '[' place with
  | some (_, rest) =>
      let (host, behind) := cut ']' rest
      (host, (cut ':' behind).2)
  | none => cut ':' place

def Url.host? (u : Url) : Option String :=
  let host := u.place.1
  if host.isEmpty then none
  else
    let name := host.takeWhile (· != '%')
    some (String.ofList (lower name ++ host.drop name.length))

def Url.port? (u : Url) : Except Unit (Option Nat) :=
  let port := u.place.2
  if port.isEmpty then .ok none
  else if port.all Char.isDigit && ofDigits port ≤ 65535 then .ok (some (ofDigits port))
  else .error ()

end PaymentUri.Endpoint
