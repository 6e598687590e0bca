import PaymentUri.Proofs.Failing
import PaymentUri.Proofs.Run
import PaymentUri.Proofs.Split
import PaymentUri.Session.Step

namespace PaymentUri

variable {s t : Session} {path : String} {argv : List String} {args : Arguments} {step : Step}
  {before steps rest : List Step}

namespace Session

def after (s : Session) (steps : List Step) : Session := steps.foldl (fun s step => (s.step step).2) s

end Session

def Found.text? : Found → Option String
  | .file text => some text
  | _ => none

end PaymentUri
