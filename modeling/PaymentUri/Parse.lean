import PaymentUri.Report
import PaymentUri.Request
import PaymentUri.Text.Split

namespace PaymentUri

inductive FaultKind where
  | schemeMismatch
  | badSyntax
  | missingAddress
  | badAddress
  | tooManyQuestionMarks
  | malformedPair
  | duplicateAddressField
  | invalidAmount
  | emptyFieldValue
  | unrecognizedRequiredField
deriving DecidableEq

inductive Rejection where
  | illegalCharacter
  | noColon
  | wrongScheme (expected : String)
  | tooManyQuestionMarks
  | emptyAddress
  | illegalAddress
  | badAddress (cause : AddressError)
  | malformedPair (token : String)
  | notText (key : String)
  | addressField
  | emptyAmount
  | badAmount (cause : AmountError)
  | negativeAmount
  | emptyField (key : String)
  | requiredField (key : String)

def FaultKind.name : FaultKind → String
  | schemeMismatch => "scheme_mismatch"
  | badSyntax => "bad_syntax"
  | missingAddress => "missing_address"
  | badAddress => "bad_address"
  | tooManyQuestionMarks => "too_many_question_marks"
  | malformedPair => "malformed_pair"
  | duplicateAddressField => "duplicate_address_field"
  | invalidAmount => "invalid_amount"
  | emptyFieldValue => "empty_field_value"
  | unrecognizedRequiredField => "unrecognized_required_field"

namespace Rejection

def kind : Rejection → FaultKind
  | illegalCharacter | illegalAddress | notText _ => .badSyntax
  | noColon | emptyAddress => .missingAddress
  | wrongScheme _ => .schemeMismatch
  | tooManyQuestionMarks => .tooManyQuestionMarks
  | badAddress _ => .badAddress
  | malformedPair _ => .malformedPair
  | addressField => .duplicateAddressField
  | emptyAmount | badAmount _ | negativeAmount => .invalidAmount
  | emptyField _ => .emptyFieldValue
  | requiredField _ => .unrecognizedRequiredField

def field : Rejection → Option String
  | illegalCharacter | noColon | wrongScheme _ | tooManyQuestionMarks | malformedPair _ => none
  | emptyAddress | illegalAddress | badAddress _ | addressField => some "address"
  | emptyAmount | badAmount _ | negativeAmount => some "amount"
  | notText key | emptyField key | requiredField key => some key

def message : Rejection → String
  | illegalCharacter => "Bad URI syntax: illegal character in payment URI"
  | noColon | emptyAddress => "Missing address"
  | wrongScheme expected => "Bad scheme: expected '" ++ expected ++ ":'"
  | tooManyQuestionMarks => "Too many question marks in payment URI"
  | illegalAddress => "Bad URI syntax: illegal character in address"
  | badAddress cause => "Bad address: " ++ cause.message
  | malformedPair token =>
      "Malformed payment URI, cannot parse name value pair '" ++ token ++ "'"
  | notText key => "Bad URI syntax: '" ++ key ++ "' is not valid UTF-8"
  | addressField => "'address' cannot appear in the query of a payment URI"
  | emptyAmount => "'amount' cannot be empty"
  | badAmount cause => "'amount' is not a valid amount: " ++ cause.message
  | negativeAmount => "'amount' cannot be negative"
  | emptyField key => "'" ++ key ++ "' cannot be empty"
  | requiredField key => "Unrecognised required field '" ++ key ++ "'"

end Rejection

structure Draft where
  address : String
  query : List Char

def afterScheme (scheme text : String) : Except Rejection (List Char) :=
  match Text.cut? ':' text.toList with
  | none => .error (if text = scheme then .noColon else .wrongScheme scheme)
  | some (before, rest) =>
      if String.ofList before = scheme then .ok rest else .error (.wrongScheme scheme)

def dropSlashes : List Char → List Char
  | '/' :: '/' :: cs => cs
  | cs => cs

def Draft.read (scheme text : String) : Except Rejection Draft := do
  unless isUriText text do throw .illegalCharacter
  let rest ← afterScheme scheme text
  let (address, query) ← match Text.split '?' (dropSlashes rest) with
    | [address] => pure (address, [])
    | [address, query] => pure (address, query)
    | _ => throw .tooManyQuestionMarks
  if address = [] then throw .emptyAddress
  -- here only a slash can still be illegal
  unless Alphabet.segment.spells address do throw .illegalAddress
  return ⟨String.ofList address, query⟩

def readPair (token : List Char) : Except Rejection (String × String) :=
  match Text.split '=' token with
  | [key, value] =>
      if key = [] then .error (.malformedPair (String.ofList token))
      else match Escape.decode? (String.ofList value) with
        | some value => .ok (String.ofList key, value)
        | none => .error (.notText (String.ofList key))
  | _ => .error (.malformedPair (String.ofList token))

def readPairs (query : List Char) : Except Rejection (List (String × String)) :=
  if query = [] then .ok [] else (Text.split '&' query).mapM readPair

inductive Field where
  | amount (units : Int)
  | label (text : String)
  | message (text : String)
  | extra (key value : String)
deriving DecidableEq

def readAmount (value : String) : Except Rejection Int :=
  if value = "" then .error .emptyAmount
  else match Amount.parse value with
    | .error cause => .error (.badAmount cause)
    | .ok units => if units < 0 then .error .negativeAmount else .ok units

def Field.read (key value : String) : Except Rejection Field :=
  if key = "address" then .error .addressField
  else if key = "amount" then (readAmount value).map .amount
  else if key = "label" then if value = "" then .error (.emptyField key) else .ok (.label value)
  else if key = "message" then if value = "" then .error (.emptyField key) else .ok (.message value)
  else if isRequiredKey key then .error (.requiredField key)
  else .ok (.extra key value)

def PaymentRequest.set (r : PaymentRequest) : Field → PaymentRequest
  | .amount units => { r with amount := some units }
  | .label text => { r with label := some text }
  | .message text => { r with message := some text }
  | .extra key value => { r with extras := r.extras ++ [(key, value)] }

/-- Adds parameters to a request. All of them are checked; of those with a key that was seen before
only a warning remains. -/
def addPairs (r : PaymentRequest) (seen : List String) :
    List (String × String) → Report Rejection PaymentRequest
  | [] => pure r
  | (key, value) :: pairs => do
      let field ← Report.ofExcept (Field.read key value)
      if key ∈ seen then
        Report.log .warning ("Ignoring repeated '" ++ key ++ "' parameter in payment URI")
        addPairs r seen pairs
      else addPairs (r.set field) (key :: seen) pairs

abbrev Resolver := Network → String → Report AddressError Payee

def offline : Resolver := fun network text =>
  Report.ofExcept ((Address.decode network text).map .address)

def readUri (resolve : Resolver) (network : Network) (text : String) :
    Report Rejection PaymentRequest := do
  let draft ← Report.ofExcept (Draft.read network.scheme text)
  let payee ← (resolve network draft.address).mapError .badAddress
  let pairs ← Report.ofExcept (readPairs draft.query)
  addPairs { payee } [] pairs

def parseUri (network : Network) (text : String) (resolve : Resolver := offline) :
    Report Rejection PaymentRequest :=
  let r := readUri resolve network text
  match r.outcome with
  | .ok _ => r
  | .error e =>
      ⟨r.outcome, r.events ++
        [.logged ⟨.debug, "Rejected payment URI (" ++ e.kind.name ++ "): " ++ e.message⟩]⟩

end PaymentUri
