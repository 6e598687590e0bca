import PaymentUri.Escape

namespace PaymentUri

inductive Alphabet where
  | uri
  | segment
  | key
deriving DecidableEq

namespace Alphabet

def delimiters : Alphabet → List Char
  | uri => "!$&'()*+,;=:/?@".toList
  | segment => "!$&'()*+,;=:@".toList
  | key => "!$'()*+,;:/@".toList

def contains (alphabet : Alphabet) (c : Char) : Bool :=
  Escape.isUnreserved c || alphabet.delimiters.contains c

/-- A text over the alphabet, in which every percent sign starts an escape. -/
def spells (alphabet : Alphabet) : List Char → Bool
  | [] => true
  | '%' :: a :: b :: cs => (Escape.byte? a b).isSome && alphabet.spells cs
  | c :: cs => alphabet.contains c && alphabet.spells cs

end Alphabet

def isUriText (text : String) : Bool := Alphabet.uri.spells text.toList

def isPathSegment (text : String) : Bool := Alphabet.segment.spells text.toList

def isQueryKey (text : String) : Bool := text != "" && Alphabet.key.spells text.toList

end PaymentUri
