import PaymentUri.Command.Run

namespace PaymentUri

inductive ClientSource where
  | given (client : Client)
  | configured (path : Option String) (env : Option Environment) (overrides : Value)

structure Call where
  method : String
  params : Value

inductive Step where
  | write (path : String) (bytes : ByteArray)
  | remove (path : String)
  | setVariable (name : String) (value : Option String)
  | remember (path : Option String)
  | expect (replies : List Reply)
  | network (path : Option String) (env : Option Environment) (override : Value)
  | connection (path : Option String) (env : Option Environment) (overrides : Value)
  | call (client : ClientSource) (calls : List Call)
  | command (argv : List String)

inductive StepResult where
  | done
  | network (n : Network)
  | connection (c : Connection)
  | calls (outcomes : List (Except CallFault Value))
  | output (o : Output)

inductive StepFault where
  | file (fault : FileFault)
  | settings (fault : SettingsFault)
  | crash (c : Crash)

namespace Session

/-- Makes calls one after the other, each answered by the next reply. A call that fails does not
keep the later ones from being made. -/
def makeCalls (s : Session) (client : Client) :
    Nat → List Call → List (Except CallFault Value) × List Event
  | _, [] => ([], [])
  | n, c :: cs =>
      let r := client.call s.platform.replyDepth c.method c.params (s.reply n)
      let (outcomes, events) := makeCalls s client (n + 1) cs
      (r.outcome :: outcomes, r.events ++ events)

def clientOf (s : Session) : ClientSource → Except SettingsFault Client
  | .given client => .ok client
  | .configured path env overrides => (s.connection path env overrides).map Client.ofConnection

def writableConnection (c : Connection) : Except SettingsFault Connection :=
  if c.baseUrl?.isSome then .ok c else .error .unwritable

def withFiles (s : Session) : Except FileFault Files → Report StepFault StepResult × Session
  | .ok files => (pure .done, { s with files })
  | .error fault => (.fail (.file fault), s)

def step (s : Session) : Step → Report StepFault StepResult × Session
  | .write path bytes => s.withFiles (s.files.write path bytes)
  | .remove path => s.withFiles (s.files.remove path)
  | .setVariable name value => (pure .done, s.setVariable name value)
  | .remember path =>
      match s.remember path with
      | .error fault => (.fail (.settings (.home fault)), s)
      | .ok s => (pure .done, s)
  | .expect replies => (pure .done, { s with replies := s.replies ++ replies })
  | .network path env override =>
      (.ofExcept ((s.network path env override).map .network |>.mapError .settings), s)
  | .connection path env overrides =>
      let c := s.connection path env overrides >>= writableConnection
      (.ofExcept (c.map .connection |>.mapError .settings), s)
  | .call source calls =>
      match s.clientOf source with
      | .error fault => (.fail (.settings fault), s)
      | .ok client =>
          let (outcomes, events) := s.makeCalls client 0 calls
          (⟨.ok (.calls outcomes), events⟩, s.afterPosts (events.filterMap Event.post?))
  | .command argv =>
      let (r, s) := runCommandLine s argv
      (⟨(r.outcome.map .output).mapError .crash, r.events⟩, s)

def steps (s : Session) : List Step → List (Report StepFault StepResult × Session)
  | [] => []
  | step :: rest => s.step step :: (s.step step).2.steps rest

end Session

end PaymentUri
