import PaymentUri.Text.Split
import PaymentUri.Text.Utf8

namespace PaymentUri

inductive Found where
  | nothing
  | directory
  | tooLong
  | file (text : String)
  | garbled (fault : Text.Utf8Fault)

inductive FileFault where
  | missing
  | directory
  | notDirectory
  | tooLong
deriving DecidableEq

/-- The slashes that a path starts with, as far as they count: two are kept, more are one. -/
def pathRoot (path : String) : String :=
  match path.toList.takeWhile (· == '/') with
  | [] => ""
  | [_, _] => "//"
  | _ => "/"

def pathSteps (path : String) : List String :=
  ((Text.split '/' path.toList).filter fun p => !(p == [] || p == ['.'])).map String.ofList

def cleanPath (path : String) : String :=
  match pathRoot path, pathSteps path with
  | "", [] => "."
  | root, steps => root ++ "/".intercalate steps

def pathStart (path : String) : List String := if pathRoot path == "" then [] else ["/"]

inductive HomeFault where
  | unknown
  | nullCharacter
deriving DecidableEq

/-- A path whose first name may be a tilde and a user, which stand for the home of that user. Behind a tilde alone
the user is the empty text. -/
def expandPath (home? : String → Option String) (path : String) : Except HomeFault String :=
  match pathRoot path, (pathSteps path).map String.toList with
  | "", ('~' :: user) :: steps =>
      if user.contains '\x00' then .error .nullCharacter
      else match (home? (String.ofList user)).map String.toList with
        | none | some ('~' :: _) => .error .unknown
        | some home =>
            -- slashes at its end do not count, so that the root is an empty text here
            let home := (home.reverse.dropWhile (· == '/')).reverse
            .ok (cleanPath (String.ofList (['/'].intercalate (home :: steps) ++ ['/'])))
  | _, _ => .ok (cleanPath path)

/-- Files and directories, each known by the names that lead to it, the last one first. -/
structure Files where
  contents : List (List String × ByteArray) := []
  directories : List (List String) := []

namespace Files

/-- The directory around one. Above the one where all paths begin the names are steps upwards. -/
def above : List String → List String
  | [] => [".."]
  | ".." :: here => ".." :: ".." :: here
  | "/" :: _ => ["/"]
  | _ :: here => here

def bytes? (d : Files) (place : List String) : Option ByteArray := d.contents.lookup place

def maxNameBytes : Nat := 255

def maxPathBytes : Nat := 4095

def locate (d : Files) (here : List String) : List String → Except FileFault (List String)
  | [] => .ok here
  | ".." :: names => locate d (above here) names
  | name :: names =>
      let place := name :: here
      if maxNameBytes < name.utf8ByteSize then .error .tooLong
      else if names.isEmpty && (d.bytes? place).isSome then .ok place
      else if d.directories.contains place then locate d place names
      else .error .missing

def place (d : Files) (path : String) : Except FileFault (List String) :=
  if maxPathBytes < (cleanPath path).utf8ByteSize then .error .tooLong
  else d.locate (pathStart path) (pathSteps path)

def found (bytes : ByteArray) : Found :=
  match Text.decode bytes with
  | .ok text => .file text
  | .error fault => .garbled fault

def find (d : Files) (path : String) : Found :=
  match d.place path with
  | .error .tooLong => .tooLong
  | .error _ => .nothing
  | .ok place => (d.bytes? place).elim .directory found

def enter (d : Files) (here : List String) : List String → Except FileFault (Files × List String)
  | [] => .ok (d, here)
  | ".." :: names => enter d (above here) names
  | name :: names =>
      let place := name :: here
      if maxNameBytes < name.utf8ByteSize then .error .tooLong
      else if (d.bytes? place).isSome then .error .notDirectory
      else enter { d with directories := place :: d.directories.filter (· != place) } place names

def without (d : Files) (place : List String) : Files :=
  { d with contents := d.contents.filter (·.1 != place) }

def write (d : Files) (path : String) (bytes : ByteArray) : Except FileFault Files := do
  let (d, here) ← d.enter (pathStart path) (pathSteps path).dropLast
  match (pathSteps path).getLast? with
  | none | some ".." => throw .directory
  | some name =>
      let place := name :: here
      if maxNameBytes < name.utf8ByteSize then throw .tooLong
      if d.directories.contains place then throw .directory
      return { d with contents := (place, bytes) :: (d.without place).contents }

def remove (d : Files) (path : String) : Except FileFault Files := do
  let place ← d.place path
  if (d.bytes? place).isNone then throw .directory
  return d.without place

end Files

end PaymentUri
