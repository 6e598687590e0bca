import PaymentUri.Command.Run

namespace PaymentUri

def settingNames : List String :=
  ["HOME", "DGB_NETWORK", "DGB_RPC_ENDPOINT", "DGB_RPC_URL", "DGB_RPC_USER", "DGB_RPC_PASSWORD",
    "DGB_RPC_HOST", "DGB_RPC_PORT", "DGB_RPC_USE_HTTPS"]

def usageText : String :=
  "usage: dgb-uri [-h] [--config CONFIG] [--network NETWORK] [--verbose]\n" ++
    "               \x7bparse,build,format,to-units\x7d ...\n"

/-- The home directories in a table of users, whose lines have the name first and the home sixth. -/
def homesOf (table : String) (user : String) : Option String :=
  let lines := (table.splitOn "\n").map (·.splitOn ":")
  (lines.find? fun fields => fields.head? == some user).bind (·[5]?)

def configCandidates (s : Session) (argv : List String) : List String :=
  match Arguments.read s.platform.takesDashes argv with
  | .ok args => s.defaultPath :: (nonempty args.config).toList.filterMap fun path => (expandPath s.home? path).toOption
  | .error _ => []

def readCandidate (path : String) : IO (Option (String × ByteArray)) :=
  try
    return some (path, ← IO.FS.readBinFile path)
  catch _ => return none

def Level.name : Level → String
  | debug => "DEBUG"
  | info => "INFO"
  | warning => "WARNING"
  | error => "ERROR"

def Crash.message : Crash → String
  | noHome => "the home directory is not known"
  | directory => "the configuration path is a directory"
  | longPath => "the configuration path is too long"
  | yaml _ => "the configuration has no value"
  | notText => "a value is not text"
  | infinitePort => "the port is infinite"
  | misshapenReply => "the node's reply is no answer"
  | deepReply fault => fault.message

end PaymentUri

open PaymentUri in
/-- The program has no transport of its own, so that every node is out of reach. -/
def main (argv : List String) : IO UInt32 := do
  let environment ← settingNames.filterMapM fun name => do
    return (← IO.getEnv name).map (name, ·)
  let users := ((← readCandidate "/etc/passwd").bind fun f => String.fromUTF8? f.2).getD ""
  let noTransport := Reply.unreachable "no transport"
  let home := (environment.lookup "HOME").getD ""
  let s : Session :=
    { platform := { homes := homesOf users, usage := fun _ => usageText }, environment,
      defaultPath := cleanPath (home ++ "/.dgb-uri.yaml"), replies := [noTransport, noTransport] }
  let contents ← (configCandidates s argv).filterMapM readCandidate
  let files := contents.foldl (fun d f => (d.write f.1 f.2).toOption.getD d) {}
  let (r, s) := runCommandLine { s with files } argv
  for record in r.records do
    if s.shows record then IO.eprintln (record.level.name ++ ": " ++ record.message)
  match r.outcome with
  | .ok output =>
      IO.print output.stdout
      IO.eprint output.stderr
      return UInt32.ofNat output.exit
  | .error c =>
      IO.eprintln ("fatal: " ++ c.message)
      return 1
