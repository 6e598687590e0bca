import PaymentUri.Value

namespace PaymentUri

inductive Level where
  | debug
  | info
  | warning
  | error
deriving DecidableEq

structure LogRecord where
  level : Level
  message : String
deriving DecidableEq

structure Post where
  url : String
  method : String
  params : Value
  user : Value
  password : Value
  timeout : Value

inductive Event where
  | logged (record : LogRecord)
  | posted (post : Post)

def Event.record? : Event → Option LogRecord
  | logged record => some record
  | posted _ => none

def Event.post? : Event → Option Post
  | logged _ => none
  | posted post => some post

/-- The end of a computation and the events on the way to it. -/
structure Report (ε α : Type) where
  outcome : Except ε α
  events : List Event

namespace Report

variable {ε ε' α β : Type}

def ofExcept (outcome : Except ε α) : Report ε α := ⟨outcome, []⟩

def fail (e : ε) : Report ε α := ⟨.error e, []⟩

def andThen (r : Report ε α) (f : α → Report ε β) : Report ε β :=
  match r.outcome with
  | .ok a => ⟨(f a).outcome, r.events ++ (f a).events⟩
  | .error e => ⟨.error e, r.events⟩

instance : Monad (Report ε) where
  pure a := ⟨.ok a, []⟩
  bind := andThen

def log (level : Level) (message : String) : Report ε Unit :=
  ⟨.ok (), [.logged ⟨level, message⟩]⟩

def post (p : Post) : Report ε Unit := ⟨.ok (), [.posted p]⟩

def mapError (f : ε → ε') (r : Report ε α) : Report ε' α := ⟨r.outcome.mapError f, r.events⟩

def records (r : Report ε α) : List LogRecord := r.events.filterMap Event.record?

def posts (r : Report ε α) : List Post := r.events.filterMap Event.post?

end Report

end PaymentUri
