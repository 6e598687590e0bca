import PaymentUri.Endpoint.Url
import PaymentUri.Files
import PaymentUri.Node
import PaymentUri.Text.Integer
import PaymentUri.Yaml.Read

namespace PaymentUri

inductive ConfigFault where
  | notFound (path : String)
  | badYaml (path : String)
  | notAMap (path : String)
  | sectionNotAMap (path : String)
  | networkNotText (path : String)
  | unknownNetwork (name : String)
  | badEndpoint (text : String)
  | badEndpointPort (text : String)
  | badPort (source : String) (value : Value)
  | noCredentials

def ConfigFault.message : ConfigFault → String
  | notFound path => "Config file not found: " ++ path
  | badYaml path => "Invalid YAML in config file " ++ path
  | notAMap path => "Expected " ++ path ++ " to contain a YAML mapping"
  | sectionNotAMap path => "Expected 'rpc' to be a mapping in " ++ path
  | networkNotText path => "Expected 'network' in " ++ path ++ " to be a string"
  | unknownNetwork name =>
      "Unknown network '" ++ name ++ "'; expected one of " ++ ", ".intercalate Network.names
  | badEndpoint text => "Invalid RPC endpoint URL: " ++ text
  | badEndpointPort text => "Invalid port in RPC endpoint URL: " ++ text
  | badPort source value => "Invalid port in " ++ source ++ ": " ++ value.display
  | noCredentials =>
      "RPC credentials must be provided via DGB_RPC_* environment variables or a config file"

/-- Why there are no settings: a faulty configuration, or something that is not told as one. A value
that should be shown may hold a number that cannot be written. -/
inductive SettingsFault where
  | config (fault : ConfigFault)
  | home (fault : HomeFault)
  | directory
  | longPath
  | garbled (fault : Text.Utf8Fault)
  | yaml (fault : Yaml.Fault)
  | endpointNotText
  | endpointBytes (byte : UInt8) (position : Nat)
  | endpointUrl (fault : Endpoint.UrlFault)
  | infinitePort
  | unwritable

abbrev Environment := List (String × String)

namespace Settings

def environmentValue (env : Environment) (name : String) : Value := .ofText? (env.lookup name)

def first : List Value → Value
  | [] => .null
  | .null :: vs => first vs
  | v :: _ => v

def firstSome {α : Type} (options : List (Option α)) (default : α) : α :=
  (options.findSome? id).getD default

/-- The map that a configuration file holds. Only a file that was asked for must be there, and one
that says nothing is an empty map. -/
def readFile (path : String) (required : Bool) : Found → Except SettingsFault Value
  | .nothing => if required then .error (.config (.notFound path)) else .ok (.map [])
  | .directory => .error .directory
  | .tooLong => .error .longPath
  | .garbled fault => .error (.garbled fault)
  | .file text =>
      match Yaml.read text with
      | .error .malformed => .error (.config (.badYaml path))
      | .error fault => .error (.yaml fault)
      | .ok v =>
          if !v.isTruthy then .ok (.map [])
          else match v with
            | .map es => .ok (.map es)
            | _ => .error (.config (.notAMap path))

def network (override : Value) (env : Environment) (path : String) (file : Value) :
    Except SettingsFault Network :=
  match first [override, environmentValue env "DGB_NETWORK", file.field "network"] with
  | .null => .ok .mainnet
  | .text name =>
      match Network.ofName? name with
      | some n => .ok n
      | none => .error (.config (.unknownNetwork name))
  | _ => .error (.config (.networkNotText path))

def bool? : Value → Option Bool
  | .bool b => some b
  | .text s =>
      let word := Text.lowerAscii (Text.strip s)
      if ["1", "true", "yes", "y", "on"].contains word then some true
      else if ["0", "false", "no", "n", "off"].contains word then some false
      else none
  | _ => none

def asciiChars? (bytes : List UInt8) : Option (List Char) :=
  bytes.mapM fun b => if b < 0x80 then some (Char.ofNat b.toNat) else none

def badPort (source : String) (v : Value) : SettingsFault :=
  if v.isWritable then .config (.badPort source v) else .unwritable

def port? (source : String) (v : Value) : Except SettingsFault (Option Int) :=
  let orBad (n? : Option Int) := n?.elim (.error (badPort source v)) fun n => .ok (some n)
  match v with
  | .null => .ok none
  | .bool b => .ok (some (if b then 1 else 0))
  | .int n => .ok (some n)
  | .float x =>
      if x.isInf then .error .infinitePort
      else orBad (if x.isNaN then none else some (Text.truncate x))
  | .text s => orBad (Text.integer? s)
  | .bytes bs => orBad ((asciiChars? bs).bind fun cs => Text.integer? (String.ofList cs))
  | _ => orBad none

structure Parts where
  host : Value := .null
  port : Option Int := none
  useHttps : Option Bool := none

def endpointUrl (shown text : String) : Except SettingsFault (Endpoint.Url × Option Int) :=
  match Endpoint.Url.read text with
  | .error fault => .error (.endpointUrl fault)
  | .ok url =>
      if url.scheme = "" ∧ url.host? = none then .error (.config (.badEndpoint shown))
      else match url.port? with
        | .error _ => .error (.config (.badEndpointPort shown))
        | .ok port => .ok (url, port.map Int.ofNat)

def endpointText (text : String) : Except SettingsFault Parts := do
  let (url, port) ← endpointUrl text text
  let useHttps := if url.scheme = "" then none else some (url.scheme == "https")
  return { host := .ofText? url.host?, port, useHttps }

/-- An endpoint of bytes must be ASCII. Its host is bytes again, and no scheme of bytes is the one of
secure connections. -/
def endpointBytes (bytes : List UInt8) : Except SettingsFault Parts := do
  if let some i := bytes.findIdx? (0x80 ≤ ·) then throw (.endpointBytes (bytes.getD i 0) i)
  let text := String.ofList (bytes.map fun b => Char.ofNat b.toNat)
  let (url, port) ← endpointUrl (Text.quotedBytes bytes) text
  let useHttps := if url.scheme = "" then none else some false
  return { host := url.host?.elim .null fun s => .bytes s.toUTF8.toList, port, useHttps }

def endpoint (v : Value) : Except SettingsFault Parts :=
  if !v.isTruthy then .ok {}
  else match v with
    | .text s => endpointText s
    | .bytes bs => endpointBytes bs
    | _ => .error .endpointNotText

/-- The endpoint of the environment: the second variable counts when the first is unset or empty. -/
def environmentEndpoint (env : Environment) : Value :=
  let v := environmentValue env "DGB_RPC_ENDPOINT"
  if v.isTruthy then v else environmentValue env "DGB_RPC_URL"

def defaultPort : Int := 14022

def defaultHost : String := "127.0.0.1"

def section? (path : String) (file : Value) : Except SettingsFault Value :=
  let v := file.field "rpc"
  if !v.isTruthy then .ok (.map [])
  else match v with
    | .map es => .ok (.map es)
    | _ => .error (.config (.sectionNotAMap path))

/-- The connection to a node. Every port that is set must be one, whether it counts or not. -/
def connection (overrides : Value) (env : Environment) (path : String) (file : Value) :
    Except SettingsFault Connection := do
  let rpc ← section? path file
  let setting (name : String) := environmentValue env ("DGB_RPC_" ++ name)
  let environmentPort ← port? "environment" (setting "PORT")
  let parts ← endpoint
    (first [overrides.field "endpoint", environmentEndpoint env, rpc.field "endpoint"])
  let user := first [overrides.field "user", setting "USER", rpc.field "user"]
  let password := first [overrides.field "password", setting "PASSWORD", rpc.field "password"]
  if !user.isTruthy || !password.isTruthy then throw (.config .noCredentials)
  let overridePort ← port? "overrides" (overrides.field "port")
  let filePort ← port? (path ++ " rpc.port") (rpc.field "port")
  return {
    user, password
    host := first [overrides.field "host", parts.host, setting "HOST", rpc.field "host",
      .text defaultHost]
    port := firstSome [overridePort, parts.port, environmentPort, filePort] defaultPort
    useHttps := firstSome [bool? (overrides.field "use_https"), parts.useHttps,
      bool? (setting "USE_HTTPS"), bool? (rpc.field "use_https")] false }

end Settings

end PaymentUri
