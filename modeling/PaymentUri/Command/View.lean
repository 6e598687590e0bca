import PaymentUri.Json.Write
import PaymentUri.Parse

namespace PaymentUri

def Payee.networkName : Payee → Value
  | .address a => .text a.network.name
  | .text _ => .null

def PaymentRequest.view (r : PaymentRequest) : Value :=
  .map
    [(.text "address", .text r.payee.display),
      (.text "network", r.payee.networkName),
      (.text "amount_units", r.amount.elim .null .int),
      (.text "amount", r.amount.elim .null fun n => .text (Amount.plain n)),
      (.text "label", .ofText? r.label),
      (.text "message", .ofText? r.message),
      (.text "extra_parameters", .map (r.extras.map fun e => (.text e.1, .text e.2)))]

def Rejection.view (r : Rejection) : Value :=
  .map
    [(.text "error", .text r.kind.name),
      (.text "field", .ofText? r.field),
      (.text "message", .text r.message)]

end PaymentUri
