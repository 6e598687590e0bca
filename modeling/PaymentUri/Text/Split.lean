namespace PaymentUri.Text

/-- The pieces of a text between the occurrences of a separator: one more than there are
separators, so never none. -/
def split (sep : Char) : List Char → List (List Char)
  | [] => [[]]
  | c :: cs => if c = sep then [] :: split sep cs else (split sep cs).modifyHead (c :: ·)

def cut? (sep : Char) : List Char → Option (List Char × List Char)
  | [] => none
  | c :: cs =>
      if c = sep then some ([], cs) else (cut? sep cs).map fun p => (c :: p.1, p.2)

def cut (sep : Char) (cs : List Char) : List Char × List Char := (cut? sep cs).getD (cs, [])

def afterLast (sep : Char) (cs : List Char) : List Char := (split sep cs).getLastD []

end PaymentUri.Text
