import PaymentUri.Address
import PaymentUri.Amount
import PaymentUri.Escape
import PaymentUri.Alphabet

namespace PaymentUri

inductive Payee where
  | address (a : Address)
  | text (s : String)

namespace Payee

def display : Payee → String
  | address a => a.text
  | text s => s

def scheme : Payee → String
  | address a => a.network.scheme
  | text _ => defaultScheme

instance : BEq Payee where
  beq
    | address a, address b => a == b
    | text s, text t => s == t
    | _, _ => false

end Payee

def reservedKeys : List String := ["address", "amount", "label", "message"]

/-- Parameters whose names start so must be understood, and none of them is. -/
def requiredMark : String := "req-"

def isRequiredKey (key : String) : Bool := requiredMark.toList.isPrefixOf key.toList

/-- A payment that is asked for. An absent label or message is `none`, never the empty text. -/
structure PaymentRequest where
  payee : Payee
  amount : Option Int := none
  label : Option String := none
  message : Option String := none
  extras : List (String × String) := []

inductive RequestError where
  | noAddress
  | negativeAmount
  | addressAmongExtras
deriving DecidableEq

inductive BuildError where
  | negativeAmount
  | reservedKey (key : String)
  | illegalKey (shown : String)
  | requiredKey (key : String)
deriving DecidableEq

inductive Parameter where
  | absent
  | text (s : String)
  | units (n : Int)
deriving DecidableEq

def RequestError.message : RequestError → String
  | noAddress => "A payment request requires an address"
  | negativeAmount => "Amount must be positive"
  | addressAmongExtras => "extra_parameters cannot contain 'address'"

def BuildError.message : BuildError → String
  | negativeAmount => "Amount must be positive"
  | reservedKey key => "'" ++ key ++ "' cannot be passed as an extra parameter"
  | illegalKey shown => "illegal key for payment URI: " ++ shown
  | requiredKey key => "Unrecognised required field '" ++ key ++ "'"

def nonempty (text : Option String) : Option String := text.filter (· != "")

def setEntry (key value : String) : List (String × String) → List (String × String)
  | [] => [(key, value)]
  | e :: es => if e.1 = key then (key, value) :: es else e :: setEntry key value es

def ofEntries (entries : List (String × String)) : List (String × String) :=
  entries.foldl (fun es e => setEntry e.1 e.2 es) []

def sameEntries (es fs : List (String × String)) : Bool :=
  es.length == fs.length && es.all fun e => fs.lookup e.1 == some e.2

def fixedParameters (amount : Option Int) (label message : Option String) : List String :=
  (amount.map fun n => "amount=" ++ Amount.plain n).toList ++
    ((nonempty label).map fun s => "label=" ++ Escape.encode s).toList ++
    ((nonempty message).map fun s => "message=" ++ Escape.encode s).toList

/-- An extra parameter as a URI has it: the key as it is, the value escaped. Keys that could not be
read back are refused. -/
def extraParameter (key value : String) : Except BuildError String :=
  if key ∈ reservedKeys then .error (.reservedKey key)
  else if ¬ isQueryKey key then .error (.illegalKey (Text.quoted key))
  else if isRequiredKey key then .error (.requiredKey key)
  else .ok (key ++ "=" ++ Escape.encode value)

def extraParameters : List (String × String) → Except BuildError (List String)
  | [] => .ok []
  | (key, value) :: es => do
      let first ← extraParameter key value
      let rest ← extraParameters es
      return first :: rest

def buildUri (payee : Payee) (amount : Option Int) (label message : Option String)
    (scheme : Option String) (extras : List (String × String)) : Except BuildError String :=
  if amount.any (· < 0) then .error .negativeAmount
  else do
    let parameters := fixedParameters amount label message ++ (← extraParameters extras)
    let base := scheme.getD payee.scheme ++ ":" ++ payee.display
    return if parameters = [] then base else base ++ "?" ++ "&".intercalate parameters

namespace PaymentRequest

def make (payee : Option Payee) (amount : Option Int) (label message : Option String)
    (extras : List (String × String)) : Except RequestError PaymentRequest :=
  match payee with
  | none => .error .noAddress
  | some payee =>
      if amount.any (· < 0) then .error .negativeAmount
      -- the other reserved keys are refused only when a URI is built
      else if (extras.lookup "address").isSome then .error .addressAmongExtras
      else .ok ⟨payee, amount, nonempty label, nonempty message, ofEntries extras⟩

def get (r : PaymentRequest) (name : String) : Parameter :=
  let ofText (s? : Option String) := s?.elim Parameter.absent .text
  match name with
  | "address" => .text r.payee.display
  | "amount" => r.amount.elim .absent .units
  | "label" => ofText r.label
  | "message" => ofText r.message
  | _ => ofText (r.extras.lookup name)

def toUri (r : PaymentRequest) : Except BuildError String :=
  buildUri r.payee r.amount r.label r.message none r.extras

def display (r : PaymentRequest) : String :=
  let entries := ("address", r.payee.display) ::
    (r.amount.map fun n => ("amount", toString n)).toList ++
    (r.label.map (("label", ·))).toList ++ (r.message.map (("message", ·))).toList ++ r.extras
  let parts := entries.map fun e => "'" ++ e.1 ++ "'='" ++ e.2 ++ "'"
  "PaymentRequest[" ++ ",".intercalate parts ++ "]"

instance : BEq PaymentRequest :=
  ⟨fun r s => r.payee == s.payee && r.amount == s.amount && r.label == s.label &&
    r.message == s.message && sameEntries r.extras s.extras⟩

end PaymentRequest

end PaymentUri
