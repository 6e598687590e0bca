import PaymentUri.Text.Split
import PaymentUri.Yaml.Node
import PaymentUri.Yaml.Stamp

namespace PaymentUri.Yaml

open Text

def isRun (firsts others : Char → Bool) : List Char → Bool
  | [] => false
  | c :: cs => firsts c && cs.all fun d => others d || d == '_'

def isOctal (c : Char) : Bool := '0' ≤ c && c ≤ '7'

def isBinary (c : Char) : Bool := c == '0' || c == '1'

def isHexadecimal (c : Char) : Bool := (hexDigit? c).isSome

def isDigitRun : List Char → Bool := isRun Char.isDigit Char.isDigit

def isLooseRun (p : Char → Bool) : List Char → Bool := isRun (fun c => p c || c == '_') p

def isSixtieth : List Char → Bool
  | [a] => a.isDigit
  | [a, b] => '0' ≤ a && a ≤ '5' && b.isDigit
  | _ => false

def isWhole : List Char → Bool
  | ['0'] => true
  | '0' :: 'b' :: cs => isLooseRun isBinary cs
  | '0' :: 'x' :: cs => isLooseRun isHexadecimal cs
  | '0' :: cs => isLooseRun isOctal cs
  | cs => match split ':' cs with
    | first :: more => isDigitRun first && more.all isSixtieth
    | [] => false

def isExponent : List Char → Bool
  | [] => true
  | e :: sign :: ds =>
      (e == 'e' || e == 'E') && (sign == '+' || sign == '-') && !ds.isEmpty && ds.all Char.isDigit
  | _ => false

def isFraction (cs : List Char) : Bool :=
  isExponent (cs.dropWhile fun c => c.isDigit || c == '_')

def isSixtieths (cs : List Char) : Bool :=
  match split ':' cs with
  | first :: second :: more => isDigitRun first && (second :: more).all isSixtieth
  | _ => false

def isReal (cs : List Char) : Bool :=
  [".inf", ".Inf", ".INF"].contains (String.ofList cs) ||
    match cut? '.' cs with
    | some (whole, rest) =>
        isDigitRun whole && isFraction rest ||
          isSixtieths whole && rest.all fun c => c.isDigit || c == '_'
    | none => false

def isUnsignedReal : List Char → Bool
  | '.' :: c :: cs =>
      c.isDigit && isFraction cs || ["nan", "NaN", "NAN"].contains (String.ofList (c :: cs))
  | _ => false

def dropSign : List Char → List Char
  | '+' :: cs => cs
  | '-' :: cs => cs
  | cs => cs

def numberKind? (cs : List Char) : Option Kind :=
  if isReal (dropSign cs) || isUnsignedReal cs then some .real
  else if isWhole (dropSign cs) then some .integer
  else none

/-- Whether the text of a moment is taken for one without being told to be: a day alone has two digits
for its month and two for its number. -/
def isPlainStamp (cs : List Char) : Bool :=
  match stamp? cs with
  | some s => s.clock.isSome || cs.length == 10
  | none => false

def lineOf (cs : List Char) : List Char :=
  if cs.getLast? == some '\n' && cs != ['\n'] then cs.dropLast else cs

def kindOf (text : String) : Kind :=
  let cs := lineOf text.toList
  match String.ofList cs with
  | "" | "~" | "null" | "Null" | "NULL" => .null
  | "yes" | "Yes" | "YES" | "true" | "True" | "TRUE" | "on" | "On" | "ON" => .truth
  | "no" | "No" | "NO" | "false" | "False" | "FALSE" | "off" | "Off" | "OFF" => .truth
  | "<<" => .merge
  | "=" => .default
  | "!" | "&" | "*" => .unknown
  | _ => (numberKind? cs).getD (if isPlainStamp cs then .moment else .text)

end PaymentUri.Yaml
