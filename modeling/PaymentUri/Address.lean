import PaymentUri.Base58
import PaymentUri.Network
import PaymentUri.Text.Quote

namespace PaymentUri

structure Address where
  network : Network
  version : Int
  hash : List UInt8
  text : String

inductive AddressError where
  | badText (fault : Base58.Fault)
  | wrongLength (length : Nat)
  | wrongVersion (network : Network) (version : Int)
  | nodeFailed (reason : String)
  | nodeRefused
  | rejected (reason : String)

inductive EncodeError where
  | wrongLength
  | versionNotAByte
deriving DecidableEq

namespace Address

instance : BEq Address :=
  ⟨fun a b => a.network == b.network && a.version == b.version && a.hash == b.hash &&
    a.text == b.text⟩

def hashLength : Nat := 20

def isScript (a : Address) : Bool := a.version != a.network.addressVersion

end Address

def Base58.Fault.message : Base58.Fault → String
  | badCharacter c => "Invalid Base58 character: " ++ Text.quoted (String.singleton c)
  | tooShort => "Input too short"
  | badChecksum => "Checksum does not validate"

def versionList (versions : List Int) : String :=
  "[" ++ ", ".intercalate (versions.map toString) ++ "]"

def AddressError.message : AddressError → String
  | badText fault => fault.message
  | wrongLength length =>
      "Expected " ++ toString Address.hashLength ++ " bytes of hash, got " ++ toString length
  | wrongVersion network version =>
      "Version code of address did not match acceptable versions for network " ++ network.name ++
        ": " ++ toString version ++ " not in " ++ versionList network.acceptedVersions
  | nodeFailed reason => "node could not validate address: " ++ reason
  | nodeRefused => "node reports the address as invalid"
  | rejected reason => reason

def EncodeError.message : EncodeError → String
  | wrongLength => "Addresses carry exactly 20 bytes of hash"
  | versionNotAByte => "bytes must be in range(0, 256)"

namespace Address

/-- The text with a checksum for a version and a payload of any length. -/
def encodeChecked (version : Int) (payload : List UInt8) : Except EncodeError String :=
  if 0 ≤ version ∧ version < 256 then
    .ok (Base58.encodeChecked (UInt8.ofNat version.toNat) payload)
  else .error .versionNotAByte

def encode (network : Network) (hash : List UInt8) (script : Bool) : Except EncodeError String :=
  if hash.length = hashLength then
    encodeChecked (if script then network.scriptVersion else network.addressVersion) hash
  else .error .wrongLength

def decode (network : Network) (text : String) : Except AddressError Address :=
  match Base58.decodeChecked text with
  | .error fault => .error (.badText fault)
  | .ok (version, hash) =>
      if hash.length ≠ hashLength then .error (.wrongLength hash.length)
      else if network.accepts version.toNat then .ok ⟨network, version.toNat, hash, text⟩
      else .error (.wrongVersion network version.toNat)

end Address

end PaymentUri
