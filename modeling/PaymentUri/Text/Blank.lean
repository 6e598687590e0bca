namespace PaymentUri.Text

def isWhite (c : Char) : Bool :=
  let n := c.toNat
  9 ≤ n && n ≤ 13 || 0x2000 ≤ n && n ≤ 0x200A ||
    [0x20, 0x85, 0xA0, 0x1680, 0x2028, 0x2029, 0x202F, 0x205F, 0x3000].contains n

/-- The characters around a name that do not belong to it: white space and the four information
separators. -/
def isBlank (c : Char) : Bool := isWhite c || 28 ≤ c.toNat && c.toNat ≤ 31

def trim (p : Char → Bool) (cs : List Char) : List Char :=
  ((cs.dropWhile p).reverse.dropWhile p).reverse

def strip (s : String) : String := String.ofList (trim isBlank s.toList)

def lowerAscii (s : String) : String := String.ofList (s.toList.map Char.toLower)

end PaymentUri.Text
