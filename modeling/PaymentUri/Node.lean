import PaymentUri.Json.Read
import PaymentUri.Parse

namespace PaymentUri

structure Connection where
  user : Value
  password : Value
  host : Value
  port : Int
  useHttps : Bool

def baseUrl? (useHttps : Bool) (host port : Value) : Option String := do
  let host ← host.display?
  let port ← port.display?
  return (if useHttps then "https" else "http") ++ "://" ++ host ++ ":" ++ port

def Connection.baseUrl? (c : Connection) : Option String :=
  PaymentUri.baseUrl? c.useHttps c.host (.int c.port)

/-- What a call needs to know: the URL of the node, if it can be written, the names its caller goes by and
the seconds that a reply may take. -/
structure Client where
  url? : Option String
  user : Value
  password : Value
  timeout : Value := .int 30

def Client.ofConnection (c : Connection) : Client :=
  { url? := c.baseUrl?, user := c.user, password := c.password }

inductive Reply where
  | answered (status : Int) (body : String)
  | unreachable (reason : String)

inductive NodeFault where
  | refused (code message : Value)
  | transport (message : String) (status : Option Int)

/-- Why a call has no result: for a reason that the node or the way to it gives, because the reply has
not the shape of an answer or is too deep to be read, or because the URL cannot be written. -/
inductive CallFault where
  | node (fault : NodeFault)
  | misshapen
  | tooDeep (fault : Json.Fault)
  | unwritable

namespace NodeFault

def unreachableMessage : String :=
  "RPC connection failed. Ensure your DigiByte node is reachable and DGB_RPC_* variables " ++
    "(or ~/.dgb-uri.yaml) point to the right host and port."

def unauthorizedMessage : String :=
  "Unauthorized (401). Ensure DGB_RPC_USER/DGB_RPC_PASSWORD (or ~/.dgb-uri.yaml) " ++
    "contain valid credentials."

def message : NodeFault → String
  | refused code message => "RPC error " ++ code.display ++ ": " ++ message.display
  | transport message _ => message

def ofStatus (status : Int) : NodeFault :=
  .transport (if status = 401 then unauthorizedMessage
    else "RPC server returned HTTP " ++ toString status) (some status)

end NodeFault

namespace Client

def faultOf : Value → CallFault
  | .map es =>
      .node (.refused ((Value.get? "code" (.map es)).getD (.int (-1)))
        ((Value.get? "message" (.map es)).getD (.text "unknown")))
  | _ => .misshapen

def isGood (status : Int) : Bool := !(400 ≤ status && status < 600)

section

-- how deep a reply may be nested
variable (depth : Nat)

def content (body : String) : Report CallFault (Option Value) :=
  match Json.read depth body with
  | .ok v => pure (some v)
  | .error .malformed => pure none
  | .error fault => .fail (.tooDeep fault)

def readBad (url : String) (status : Int) (body : String) : Report CallFault Value := do
  let content ← content depth body
  match (content.bind (Value.get? "error")).filter Value.isTruthy with
  | some error => .fail (faultOf error)
  | none => do
      Report.log .error ("RPC HTTP error " ++ toString status ++ " from " ++ url)
      .fail (.node (.ofStatus status))

def readGood (body : String) : Report CallFault Value := do
  match ← content depth body with
  | none => do
      Report.log .debug ("RPC JSON parse error: " ++ body)
      .fail (.node (.transport "RPC server returned malformed JSON" none))
  | some (.map es) =>
      -- a result beside an error does not count
      let error := Value.field (.map es) "error"
      if error.isTruthy then .fail (faultOf error)
      else pure (Value.field (.map es) "result")
  | some _ => .fail .misshapen

def readReply (url : String) : Reply → Report CallFault Value
  | .unreachable reason => do
      Report.log .error ("RPC connection failed: " ++ reason)
      .fail (.node (.transport NodeFault.unreachableMessage none))
  | .answered status body => if isGood status then readGood depth body else readBad depth url status body

def call (client : Client) (method : String) (params : Value) (reply : Reply) :
    Report CallFault Value := do
  Report.log .debug ("RPC call " ++ method ++ " params=" ++ params.display)
  match client.url? with
  | none => .fail .unwritable
  | some url =>
      Report.post ⟨url, method, if params.isTruthy then params else .list [], client.user,
        client.password, client.timeout⟩
      readReply depth url reply

def chainInfo (client : Client) : Reply → Report CallFault Value :=
  client.call depth "getblockchaininfo" .null

def validateAddress (client : Client) (text : String) : Reply → Report CallFault Value :=
  client.call depth "validateaddress" (.list [.text text])

end

end Client

def isConfirmed : Value → Bool
  | .map es => (Value.field (.map es) "isvalid").isTruthy
  | _ => false

/-- Asks a node about an address; only one that the node confirms goes on to the other resolver. -/
def viaNode (ask : String → Report NodeFault Value) (next : Resolver) : Resolver :=
  fun network text =>
    let answer := ask text
    match answer.outcome with
    | .error fault =>
        ⟨.error (.nodeFailed fault.message),
          answer.events ++ [.logged ⟨.error, "validateaddress failed: " ++ fault.message⟩]⟩
    | .ok verdict =>
        if isConfirmed verdict then
          ⟨(next network text).outcome, answer.events ++ (next network text).events⟩
        else ⟨.error .nodeRefused, answer.events⟩

end PaymentUri
