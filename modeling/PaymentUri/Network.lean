import PaymentUri.Text.Blank

namespace PaymentUri

def defaultScheme : String := "digibyte"

structure Network where
  id : String
  name : String
  addressVersion : Int
  scriptVersion : Int
  acceptedVersions : List Int
  scheme : String := defaultScheme

namespace Network

instance : BEq Network := ⟨fun a b => a.id == b.id⟩

def accepts (network : Network) (version : Int) : Bool := network.acceptedVersions.contains version

/-- Version 5 is the older one for scripts; it is still in use. -/
def mainnet : Network where
  id := "org.digibyte.production"
  name := "mainnet"
  addressVersion := 30
  scriptVersion := 63
  acceptedVersions := [30, 63, 5]

def testnet : Network where
  id := "org.digibyte.test"
  name := "testnet"
  addressVersion := 126
  scriptVersion := 140
  acceptedVersions := [126, 140]

def known : List Network := [mainnet, testnet]

def names : List String := known.map name

def ofId? (id : String) : Option Network := known.find? (·.id == id)

def expandName (name : String) : String :=
  if ["main", "prod", "production"].contains name then mainnet.name
  else if name == "test" then testnet.name
  else name

def ofName? (name : String) : Option Network :=
  known.find? (·.name == expandName (Text.lowerAscii (Text.strip name)))

def unknownMessage (name : String) : String := "Unknown DigiByte network: " ++ name

end Network

end PaymentUri
