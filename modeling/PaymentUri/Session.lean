import PaymentUri.Settings

namespace PaymentUri

/-- What differs from one machine to another: the home directories of its users, the empty name being one's own; how
deep a reply may be nested to be read; whether two dashes are taken out of the value of an option; and how a command
line that cannot be used is explained. -/
structure Platform where
  homes : String → Option String := fun _ => none
  replyDepth : Nat := 984
  takesDashes : Bool := true
  usage : List String → String := fun _ => ""

structure Session where
  platform : Platform := {}
  files : Files := {}
  environment : Environment := []
  defaultPath : String
  remembered : Option String := none
  verbose : Bool := false
  replies : List Reply := []

def Reply.exhausted : Reply := .unreachable "no scripted response left"

namespace Session

def setVariable (s : Session) (name : String) (value : Option String) : Session :=
  { s with environment := (value.map (name, ·)).toList ++ s.environment.filter (·.1 != name) }

/-- The home directory of a user. The environment says where one's own is before the machine does. -/
def home? (s : Session) (user : String) : Option String :=
  if user == "" then (s.environment.lookup "HOME").or (s.platform.homes "") else s.platform.homes user

def remember (s : Session) (path : Option String) : Except HomeFault Session :=
  match nonempty path with
  | none => .ok { s with remembered := none }
  | some path => (expandPath s.home? path).map fun path => { s with remembered := some path }

def configPath (s : Session) (path : Option String) : Except HomeFault (String × Bool) :=
  match path, s.remembered with
  | some path, _ => (expandPath s.home? path).map (·, true)
  | none, some path => .ok (path, true)
  | none, none => .ok (s.defaultPath, false)

def config (s : Session) (path : Option String) : Except SettingsFault (String × Value) := do
  let (path, required) ← (s.configPath path).mapError .home
  let file ← Settings.readFile path required (s.files.find path)
  return (path, file)

def network (s : Session) (path : Option String) (env : Option Environment) (override : Value) :
    Except SettingsFault Network := do
  let (path, file) ← s.config path
  Settings.network override (env.getD s.environment) path file

def connection (s : Session) (path : Option String) (env : Option Environment) (overrides : Value) :
    Except SettingsFault Connection := do
  let (path, file) ← s.config path
  Settings.connection overrides (env.getD s.environment) path file

def reply (s : Session) (n : Nat) : Reply := s.replies.getD n .exhausted

/-- The session after some requests, each of which used up a reply. -/
def afterPosts (s : Session) (posts : List Post) : Session :=
  { s with replies := s.replies.drop posts.length }

def shows (s : Session) (r : LogRecord) : Bool := s.verbose || r.level != .debug

end Session

end PaymentUri
