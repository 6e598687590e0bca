import PaymentUri.Calendar
import PaymentUri.Text.Float
import PaymentUri.Text.Integer

namespace PaymentUri

/-- A tree of plain data. The entries of a map stand in the order in which their keys were first
written. In a collection that contains itself, a mark stands where it would begin again. -/
inductive Value where
  | null
  | bool (b : Bool)
  | int (n : Int)
  | float (x : Float)
  | text (s : String)
  | bytes (bs : List UInt8)
  | date (d : Date)
  | moment (m : Moment)
  | list (items : List Value)
  | pair (first second : Value)
  | set (items : List Value)
  | map (entries : List (Value × Value))
  | again (mark : String)

namespace Value

def isTruthy : Value → Bool
  | null => false
  | bool b => b
  | int n => n != 0
  | float x => x != 0
  | text s => s != ""
  | bytes bs => !bs.isEmpty
  | list items => !items.isEmpty
  | set items => !items.isEmpty
  | map entries => !entries.isEmpty
  | date _ | moment _ | pair _ _ | again _ => true

mutual

def shown : Value → String
  | null => "None"
  | bool b => if b then "True" else "False"
  | int n => toString n
  | float x => Text.ofFloat x
  | text s => Text.quoted s
  | bytes bs => Text.quotedBytes bs
  | date d => d.shown
  | moment m => m.shown
  | list items => "[" ++ shownItems items ++ "]"
  | pair first second => "(" ++ first.shown ++ ", " ++ second.shown ++ ")"
  | set [] => "set()"
  | set items => "\x7b" ++ shownItems items ++ "\x7d"
  | map entries => "\x7b" ++ shownEntries entries ++ "\x7d"
  | again mark => mark

def shownItems : List Value → String
  | [] => ""
  | [v] => v.shown
  | v :: vs => v.shown ++ ", " ++ shownItems vs

def shownEntries : List (Value × Value) → String
  | [] => ""
  | [(k, v)] => k.shown ++ ": " ++ v.shown
  | (k, v) :: es => k.shown ++ ": " ++ v.shown ++ ", " ++ shownEntries es

end

def display : Value → String
  | text s => s
  | date d => d.display
  | moment m => m.display
  | v => v.shown

mutual

def isWritable : Value → Bool
  | int n => Text.isWritable n
  | list items => areWritable items
  | pair first second => first.isWritable && second.isWritable
  | set items => areWritable items
  | map entries => areWritableEntries entries
  | _ => true

def areWritable : List Value → Bool
  | [] => true
  | v :: vs => v.isWritable && areWritable vs

def areWritableEntries : List (Value × Value) → Bool
  | [] => true
  | (k, v) :: es => k.isWritable && v.isWritable && areWritableEntries es

end

def display? (v : Value) : Option String := if v.isWritable then some v.display else none

def keyNumber? : Value → Option Int
  | bool b => some (if b then 1 else 0)
  | int n => some n
  | float x => if x.isFinite && Float.ofInt (Text.truncate x) == x then some (Text.truncate x) else none
  | _ => none

def isSameKey : Value → Value → Bool
  | text s, text t => s == t
  | null, null => true
  | bytes bs, bytes cs => bs == cs
  | date d, date e => d == e
  | moment m, moment n => m.isSame n
  | float x, float y => x == y || x.isNaN && y.isNaN
  -- what is left may be numbers of different kinds, or truth values, which are keys like numbers
  | k, l => match k.keyNumber?, l.keyNumber? with
    | some m, some n => m == n
    | _, _ => false

def insertEntry {α : Type} (key : Value) (value : α) : List (Value × α) → List (Value × α)
  | [] => [(key, value)]
  | e :: es => if e.1.isSameKey key then (e.1, value) :: es else e :: insertEntry key value es

def ofEntries (entries : List (Value × Value)) : Value :=
  map (entries.foldl (fun es e => insertEntry e.1 e.2 es) [])

def get? (key : String) : Value → Option Value
  | map entries => (entries.find? fun e => e.1.isSameKey (text key)).map (·.2)
  | _ => none

def field (v : Value) (key : String) : Value := (v.get? key).getD null

def ofText? : Option String → Value
  | some s => text s
  | none => null

end Value

end PaymentUri
