namespace PaymentUri.Yaml

inductive Kind where
  | null
  | truth
  | integer
  | real
  | binary
  | moment
  | text
  | sequence
  | mapping
  | set
  | pairs
  | merge
  | default
  | unknown
deriving DecidableEq

def tagPrefix : String := "tag:yaml.org,2002:"

def kindNames : List (String × Kind) :=
  [("null", .null), ("bool", .truth), ("int", .integer), ("float", .real), ("binary", .binary),
    ("timestamp", .moment), ("str", .text), ("seq", .sequence), ("map", .mapping), ("set", .set),
    ("omap", .pairs), ("pairs", .pairs), ("merge", .merge), ("value", .default)]

def Kind.ofTag (tag : String) : Kind :=
  ((kindNames.find? fun k => tagPrefix ++ k.1 == tag).map (·.2)).getD .unknown

inductive Content where
  | scalar (text : String)
  | items (nodes : List Nat)
  | entries (nodes : List (Nat × Nat))
deriving DecidableEq

structure Node where
  kind : Kind
  content : Content
deriving DecidableEq

end PaymentUri.Yaml
