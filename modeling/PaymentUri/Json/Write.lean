import PaymentUri.Value

namespace PaymentUri.Json

def unitEscape (n : Nat) : List Char := '\\' :: 'u' :: Text.paddedHex 4 n

def charEscape (c : Char) : List Char :=
  let n := c.toNat
  if n < 0x10000 then unitEscape n
  else unitEscape (0xD800 + (n - 0x10000) / 0x400) ++ unitEscape (0xDC00 + (n - 0x10000) % 0x400)

def charText (ascii : Bool) (c : Char) : List Char :=
  match c with
  | '"' => ['\\', '"']
  | '\\' => ['\\', '\\']
  | '\n' => ['\\', 'n']
  | '\r' => ['\\', 'r']
  | '\t' => ['\\', 't']
  | '\x08' => ['\\', 'b']
  | '\x0c' => ['\\', 'f']
  | c => if c.toNat < 0x20 || ascii && 0x7F ≤ c.toNat then charEscape c else [c]

def quoted (ascii : Bool) (s : String) : String :=
  String.ofList ('"' :: s.toList.flatMap (charText ascii) ++ ['"'])

def floatText (x : Float) : String :=
  if x.isNaN then "NaN"
  else if x.isInf then if x < 0 then "-Infinity" else "Infinity"
  else Text.ofFloat x

def keyText (ascii : Bool) : Value → String
  | .text s => quoted ascii s
  | .bool b => if b then "\"true\"" else "\"false\""
  | .null => "\"null\""
  | v => quoted ascii v.display

mutual

/-- A value on one line. What object notation does not know is written as a text. -/
def write (ascii : Bool) : Value → String
  | .null => "null"
  | .bool b => if b then "true" else "false"
  | .int n => toString n
  | .float x => floatText x
  | .text s => quoted ascii s
  | .list vs => "[" ++ ", ".intercalate (writeItems ascii vs) ++ "]"
  | .pair first second => "[" ++ write ascii first ++ ", " ++ write ascii second ++ "]"
  | .map es => "\x7b" ++ ", ".intercalate (writeEntries ascii es) ++ "\x7d"
  | v => quoted ascii v.display

def writeItems (ascii : Bool) : List Value → List String
  | [] => []
  | v :: vs => write ascii v :: writeItems ascii vs

def writeEntries (ascii : Bool) : List (Value × Value) → List String
  | [] => []
  | (k, v) :: es => (keyText ascii k ++ ": " ++ write ascii v) :: writeEntries ascii es

end

def newline (level : Nat) : String := "\n" ++ String.ofList (List.replicate (2 * level) ' ')

mutual

def pretty (ascii : Bool) (level : Nat) : Value → String
  | .list [] => "[]"
  | .map [] => "\x7b\x7d"
  | .list vs => "[" ++ ",".intercalate (prettyItems ascii (level + 1) vs) ++ newline level ++ "]"
  | .map es =>
      "\x7b" ++ ",".intercalate (prettyEntries ascii (level + 1) es) ++ newline level ++ "\x7d"
  | v => write ascii v

def prettyItems (ascii : Bool) (level : Nat) : List Value → List String
  | [] => []
  | v :: vs => (newline level ++ pretty ascii level v) :: prettyItems ascii level vs

def prettyEntries (ascii : Bool) (level : Nat) : List (Value × Value) → List String
  | [] => []
  | (k, v) :: es =>
      (newline level ++ keyText ascii k ++ ": " ++ pretty ascii level v) ::
        prettyEntries ascii level es

end

end PaymentUri.Json
