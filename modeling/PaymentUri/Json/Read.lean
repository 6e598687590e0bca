import PaymentUri.Json.Lexer

namespace PaymentUri.Json

inductive Frame where
  | items (values : List Value)
  | entries (entries : List (Value × Value)) (key : String)

inductive State where
  | value (stack : List Frame)
  | firstItem (stack : List Frame)
  | key (first : Bool) (entries : List (Value × Value)) (stack : List Frame)
  | colon (entries : List (Value × Value)) (key : String) (stack : List Frame)
  | done (v : Value) (stack : List Frame)

/-- Why a text denotes no value. A list, or otherwise a map, may lie too deep inside others. -/
inductive Fault where
  | malformed
  | deepList
  | deepMap
deriving DecidableEq

def Fault.message : Fault → String
  | malformed => "malformed data"
  | deepList => "maximum recursion depth exceeded while decoding a JSON array from a unicode string"
  | deepMap => "maximum recursion depth exceeded while decoding a JSON object from a unicode string"

section

-- how many lists and maps may lie inside each other
variable (maxDepth : Nat)

def openList (stack : List Frame) : Except Fault State :=
  if stack.length < maxDepth then .ok (.firstItem stack) else .error .deepList

def openMap (stack : List Frame) : Except Fault State :=
  if stack.length < maxDepth then .ok (.key true [] stack) else .error .deepMap

def step : State → Token → Except Fault State
  | .value st, .value v => .ok (.done v st)
  | .value st, .openList => openList maxDepth st
  | .value st, .openMap => openMap maxDepth st
  | .firstItem st, .closeList => .ok (.done (.list []) st)
  | .firstItem st, .value v => .ok (.done v (.items [] :: st))
  | .firstItem st, .openList => openList maxDepth (.items [] :: st)
  | .firstItem st, .openMap => openMap maxDepth (.items [] :: st)
  | .key true [] st, .closeMap => .ok (.done (.map []) st)
  | .key _ es st, .value (.text k) => .ok (.colon es k st)
  | .colon es k st, .colon => .ok (.value (.entries es k :: st))
  | .done v (.items vs :: st), .comma => .ok (.value (.items (v :: vs) :: st))
  | .done v (.items vs :: st), .closeList => .ok (.done (.list (v :: vs).reverse) st)
  | .done v (.entries es k :: st), .comma => .ok (.key false ((.text k, v) :: es) st)
  | .done v (.entries es k :: st), .closeMap =>
      .ok (.done (Value.ofEntries ((.text k, v) :: es).reverse) st)
  | _, _ => .error .malformed

def advance (s : Pending × State) (c : Char) : Except Fault (Pending × State) :=
  match feed s.1 c with
  | none => .error .malformed
  | some (pending, ts) => (ts.foldlM (step maxDepth) s.2).map (pending, ·)

def read (text : String) : Except Fault Value := do
  let (pending, s) ← text.toList.foldlM (advance maxDepth) (.nothing, .value [])
  let some ts := finish pending | throw .malformed
  match ← ts.foldlM (step maxDepth) s with
  | .done v [] => return v
  | _ => throw .malformed

def read? (text : String) : Option Value := (read maxDepth text).toOption

end

end PaymentUri.Json
