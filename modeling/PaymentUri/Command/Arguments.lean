import PaymentUri.Text.Digit
import PaymentUri.Text.Split

namespace PaymentUri

inductive Style where
  | friendly
  | plain
deriving DecidableEq

/-- The value of an option. Two dashes behind an equals sign may be no text. -/
inductive Given where
  | text (s : String)
  | nothing
deriving DecidableEq

def Given.text? : Given → Option String
  | text s => some s
  | nothing => none

inductive Command where
  | parse (uri : String) (nodeCheck : Bool)
  | build (address : String) (amount : Option Given) (label message : Option String)
      (params : List Given)
  | format (units : String) (style : Style)
  | toUnits (amount : String)
deriving DecidableEq

structure Arguments where
  config : Option String
  network : Option Given
  verbose : Bool
  command : Command
deriving DecidableEq

inductive UsageFault where
  | help
  | wrong
deriving DecidableEq

namespace Arguments

structure Rule where
  name : String
  takesValue : Bool
  choices : List String := []
deriving DecidableEq

def flag (name : String) : Rule := ⟨name, false, []⟩

def option (name : String) (choices : List String := []) : Rule := ⟨name, true, choices⟩

inductive Kind where
  | word
  | option (rule : Rule) (value : Option String)
  | unknown
  | ambiguous
deriving DecidableEq

def helpRules : List Rule := [flag "-h", flag "--help"]

def startsWith (start s : String) : Bool := start.toList.isPrefixOf s.toList

/-- Digits with a minus sign, and perhaps a point before the last of them. A line break may end
them. -/
def isNegativeNumber (s : String) : Bool :=
  let isDigit (c : Char) : Bool := (Text.digit? c).isSome
  let cs := s.toList
  let cs := if cs.getLast? == some '\n' then cs.dropLast else cs
  match cs with
  | '-' :: cs =>
      match Text.cut? '.' cs with
      | none => !cs.isEmpty && cs.all isDigit
      | some (whole, fraction) => whole.all isDigit && !fraction.isEmpty && fraction.all isDigit
  | _ => false

/-- The options that an argument may abbreviate, with the value behind an equals sign. Behind a single
letter the value follows at once. -/
def candidates (rules : List Rule) (arg : String) : List (Rule × Option String) :=
  if startsWith "--" arg then
    let (name, value) := match Text.cut? '=' arg.toList with
      | some (name, value) => (String.ofList name, some (String.ofList value))
      | none => (arg, none)
    (rules.filter fun r => startsWith name r.name).map (·, value)
  else
    (rules.filter fun r => r.name.toList == arg.toList.take 2).map
      (·, some (String.ofList (arg.toList.drop 2)))

def named? (rules : List Rule) (arg : String) : Option (Rule × String) := do
  let (name, value) ← Text.cut? '=' arg.toList
  let r ← rules.find? (·.name == String.ofList name)
  return (r, String.ofList value)

def kind (rules : List Rule) (arg : String) : Kind :=
  if !startsWith "-" arg || arg == "-" then .word
  else match rules.find? (·.name == arg) with
    | some r => .option r none
    | none => match named? rules arg, candidates rules arg with
        | some (r, value), _ => .option r (some value)
        | none, _ :: _ :: _ => .ambiguous
        | none, [(r, value)] => .option r value
        -- what begins with a dash and is no option is still a word if it is a number or has a space
        | none, [] => if isNegativeNumber arg || arg.toList.contains ' ' then .word else .unknown

def isWord (rules : List Rule) (arg : String) : Bool := arg != "--" && kind rules arg == .word

structure Taken where
  options : List (Rule × Given) := []
  word : Option String := none
  surplus : Bool := false

def Taken.add (t : Taken) (r : Rule) (value : Given) : Taken :=
  { t with options := t.options ++ [(r, value)] }

section

-- option readers differ in whether they take two dashes out of a value behind an equals sign
variable (takesDashes : Bool)

def givenBehind (value : String) : Given := if takesDashes && value == "--" then .nothing else .text value

def Rule.allows (r : Rule) (value : Given) : Bool :=
  r.choices.isEmpty || value.text?.all r.choices.contains

/-- Takes an option that needs no further argument. Help may be asked for by a letter more than
once. -/
def Taken.flag (t : Taken) (r : Rule) (value : Option String) : Except UsageFault Taken :=
  let isRepeated := value.any fun s => r.name == "-h" && s != "" && s.toList.all (· == 'h')
  if helpRules.contains r then .error (if value.isNone || isRepeated then .help else .wrong)
  else if value.isSome then .error .wrong
  else .ok (t.add r .nothing)

def Taken.value (t : Taken) (r : Rule) (value : Given) : Except UsageFault Taken :=
  if r.allows value then .ok (t.add r value) else .error .wrong

/-- Takes arguments up to two dashes, or only up to the first word. Two dashes right behind a word at the
end mean nothing. -/
def takeUntil (stopsAtWord : Bool) (rules : List Rule) (t : Taken) :
    List String → Except UsageFault (Taken × List String)
  | [] => .ok (t, [])
  | arg :: rest =>
      let goOn (t : Taken) := takeUntil stopsAtWord rules t rest
      if arg == "--" then .ok (t, arg :: rest)
      else match kind rules arg with
        | .ambiguous => .error .wrong
        | .unknown => goOn { t with surplus := true }
        | .word =>
            if stopsAtWord then .ok (t, arg :: rest)
            else if t.word.isSome then goOn { t with surplus := true }
            else if rest == ["--"] then .ok ({ t with word := some arg }, [])
            else goOn { t with word := some arg }
        | .option r value =>
            if !r.takesValue then t.flag r value >>= goOn
            else match value, rest with
              | some value, _ => t.value r (givenBehind takesDashes value) >>= goOn
              | none, [] => .error .wrong
              | none, value :: rest =>
                  if !isWord rules value then .error .wrong
                  else t.value r (.text value) >>= fun t => takeUntil stopsAtWord rules t rest

def Taken.words (t : Taken) (rest : List String) : Taken :=
  match t.word, rest with
  | _, [] => t
  -- behind two dashes anything is a word
  | none, [_, word] => { t with word := some word }
  | _, _ => { t with surplus := true }

def readCommand (own : List Rule) (args : List String) :
    Except UsageFault (String × List (Rule × Given)) := do
  let (t, rest) ← takeUntil takesDashes false (helpRules ++ own) {} args
  let t := t.words rest
  match t.word, t.surplus with
  | some word, false => return (word, t.options)
  | _, _ => throw .wrong

def valuesOf (options : List (Rule × Given)) (name : String) : List Given :=
  (options.filter (·.1.name == name)).map (·.2)

def last? (options : List (Rule × Given)) (name : String) : Option Given :=
  (valuesOf options name).getLast?

def lastText? (options : List (Rule × Given)) (name : String) : Option String :=
  (last? options name).bind Given.text?

def readNamed (name : String) (args : List String) : Except UsageFault Command := do
  match name with
  | "parse" =>
      let (uri, options) ← readCommand takesDashes [flag "--node-check"] args
      return .parse uri (last? options "--node-check").isSome
  | "build" =>
      let (address, options) ← readCommand takesDashes
        [option "--amount", option "--label", option "--message", option "--param"] args
      return .build address (last? options "--amount") (lastText? options "--label")
        (lastText? options "--message") (valuesOf options "--param")
  | "format" =>
      let (units, options) ← readCommand takesDashes [option "--style" ["friendly", "plain"]] args
      return .format units (if lastText? options "--style" == some "friendly" then .friendly else .plain)
  | "to-units" =>
      let (amount, _) ← readCommand takesDashes [] args
      return .toUnits amount
  | _ => throw .wrong

def globalRules : List Rule :=
  helpRules ++ [option "--config", option "--network", flag "--verbose"]

def readAll (args : List String) : Except UsageFault Arguments := do
  match ← takeUntil takesDashes true globalRules {} args with
  | (t, name :: rest) =>
      let c ← readNamed takesDashes name rest
      if t.surplus then throw .wrong
      return ⟨lastText? t.options "--config", last? t.options "--network",
        (last? t.options "--verbose").isSome, c⟩
  | (_, []) => throw .wrong

/-- Reads a command line. An argument that may abbreviate several global options spoils it wherever
it stands in front of two dashes. -/
def read (args : List String) : Except UsageFault Arguments :=
  if (args.takeWhile (· != "--")).any fun arg => kind globalRules arg == .ambiguous then .error .wrong
  else readAll takesDashes args

end

end Arguments

end PaymentUri
