import PaymentUri.Command.Arguments
import PaymentUri.Command.View
import PaymentUri.Session

namespace PaymentUri

structure Output where
  exit : Nat
  stdout : String := ""
  stderr : String := ""
deriving DecidableEq

inductive Crash where
  | noHome
  | directory
  | longPath
  | yaml (fault : Yaml.Fault)
  | notText
  | infinitePort
  | misshapenReply
  | deepReply (fault : Json.Fault)
deriving DecidableEq

inductive Stop where
  | told (message : String)
  | crash (c : Crash)

def asciiMessage (byte : UInt8) (position : Nat) : String :=
  "'ascii' codec can't decode byte 0x" ++ String.ofList (Text.paddedHex 2 byte.toNat) ++
    " in position " ++ toString position ++ ": ordinal not in range(128)"

def HomeFault.stop : HomeFault → Stop
  | unknown => .crash .noHome
  | nullCharacter => .told "embedded null byte"

def SettingsFault.stop : SettingsFault → Stop
  | config fault => .told fault.message
  | home fault => fault.stop
  | directory => .crash .directory
  | longPath => .crash .longPath
  | garbled fault => .told fault.message
  | yaml fault => fault.message?.elim (.crash (.yaml fault)) .told
  | endpointNotText => .crash .notText
  | endpointBytes byte position => .told (asciiMessage byte position)
  | endpointUrl fault => .told fault.message
  | infinitePort => .crash .infinitePort
  | unwritable => .told Text.unwritableMessage

def CallFault.stop : CallFault → Stop
  | node fault => .told fault.message
  | misshapen => .crash .misshapenReply
  | tooDeep fault => .crash (.deepReply fault)
  | unwritable => .told Text.unwritableMessage

namespace Command

def chainName? (network : Network) : Option String :=
  [("mainnet", "main"), ("testnet", "test")].lookup network.name

def checkChain (network : Network) : Value → Except Stop Unit
  | .map es =>
      let chain := Value.field (.map es) "chain"
      let matched (name : String) : Bool := match chain with
        | .text s => s == name
        | _ => false
      if (chainName? network).all matched then .ok ()
      else .error (.told ("node is on chain '" ++ chain.display ++ "' but network " ++ network.name ++
        " was requested"))
  | _ => .error (.told "node returned no blockchain info")

def nodeVerdict (r : Report CallFault Value) : Report Stop (Report NodeFault Value) :=
  match r.outcome with
  | .ok v => pure ⟨.ok v, r.events⟩
  | .error (.node fault) => pure ⟨.error fault, r.events⟩
  | .error fault => ⟨.error fault.stop, r.events⟩

/-- Reads a URI with the address confirmed by a node. The node is asked only about an address that
the checks before it let pass. -/
def parseChecked (s : Session) (network : Network) (uri : String) :
    Report Stop (Report Rejection PaymentRequest) := do
  let connection ← Report.ofExcept ((s.connection none none .null).mapError SettingsFault.stop)
  let client := Client.ofConnection connection
  let info ← (client.chainInfo s.platform.replyDepth (s.reply 0)).mapError CallFault.stop
  Report.ofExcept (checkChain network info)
  match Draft.read network.scheme uri with
  | .error _ => return parseUri network uri
  | .ok draft =>
      let answer ← nodeVerdict (client.validateAddress s.platform.replyDepth draft.address (s.reply 1))
      return parseUri network uri (viaNode (fun _ => answer) offline)

def parseOutput : Except Rejection PaymentRequest → Output
  | .ok r => { exit := 0, stdout := Json.pretty false 0 r.view ++ "\n" }
  | .error e => { exit := 1, stdout := Json.pretty true 0 e.view ++ "\n" }

def runParse (s : Session) (network : Network) (uri : String) (nodeCheck : Bool) : Report Stop Output := do
  let r ← if nodeCheck then parseChecked s network uri else pure (parseUri network uri)
  ⟨.ok (parseOutput r.outcome), r.events⟩

def amount : Given → Except AmountError Int
  | .text s => Amount.parse s
  | .nothing => .error (.notDecimal "[]")

def param : Given → Except Stop (String × String)
  | .nothing => .error (.crash .notText)
  | .text raw =>
      match Text.cut? '=' raw.toList with
      | some (c :: key, value) => .ok (String.ofList (c :: key), String.ofList value)
      | _ => .error (.told ("--param expects KEY=VALUE, got " ++ Text.quoted raw))

def runBuild (network : Network) (address : String) (given : Option Given)
    (label message : Option String) (params : List Given) : Except Stop Output := do
  let units ← (given.mapM amount).mapError fun e => Stop.told e.message
  let extras ← params.mapM param
  let uri ← (buildUri (.text address) units label message (some network.scheme)
    (ofEntries extras)).mapError fun e => Stop.told e.message
  return { exit := 0, stdout := uri ++ "\n" }

def runFormat (units : String) (style : Style) : Except Stop Output :=
  match Text.integer? units with
  | none => .error (.told ("invalid amount in smallest units: " ++ units))
  | some n =>
      let text := match style with
        | .friendly => Amount.friendly n
        | .plain => Amount.plain n
      .ok { exit := 0, stdout := text ++ "\n" }

def runToUnits (amount : String) : Except Stop Output :=
  match Amount.parse amount with
  | .error e => .error (.told e.message)
  | .ok n => .ok { exit := 0, stdout := toString n ++ "\n" }

def networkName : Option Given → Value
  | none => .null
  | some (.text s) => .text s
  | some .nothing => .list []

def run (s : Session) (network : Option Given) (c : Command) : Report Stop Output := do
  let load : Report Stop Network :=
    Report.ofExcept ((s.network none none (networkName network)).mapError SettingsFault.stop)
  match c with
  | .parse uri nodeCheck => runParse s (← load) uri nodeCheck
  | .build address amount label message params =>
      Report.ofExcept (runBuild (← load) address amount label message params)
  | .format units style => Report.ofExcept (runFormat units style)
  | .toUnits amount => Report.ofExcept (runToUnits amount)

/-- What has a message is told; nothing else is caught. -/
def recover (r : Report Stop Output) : Report Crash Output :=
  match r.outcome with
  | .ok output => ⟨.ok output, r.events⟩
  | .error (.told message) => ⟨.ok { exit := 1, stderr := "error: " ++ message ++ "\n" }, r.events⟩
  | .error (.crash c) => ⟨.error c, r.events⟩

end Command

def UsageFault.output (text : String) : UsageFault → Output
  | help => { exit := 0, stdout := text }
  | wrong => { exit := 2, stderr := text }

namespace Session

def heard (s : Session) (args : Arguments) : Session := { s with verbose := s.verbose || args.verbose }

def enter (s : Session) (args : Arguments) : Except HomeFault Session :=
  if (nonempty args.config).isSome then (s.heard args).remember args.config else .ok (s.heard args)

end Session

/-- Runs a command line. What is said before the command is kept even when the command then fails; arguments that are
not understood change nothing. -/
def runCommandLine (s : Session) (argv : List String) : Report Crash Output × Session :=
  match Arguments.read s.platform.takesDashes argv with
  | .error fault => (⟨.ok (fault.output (s.platform.usage argv)), []⟩, s)
  | .ok args =>
      match s.enter args with
      | .error fault => (Command.recover (.fail fault.stop), s.heard args)
      | .ok s =>
          let r := Command.recover (Command.run s args.network args.command)
          (r, s.afterPosts r.posts)

end PaymentUri
