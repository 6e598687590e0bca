namespace PaymentUri.Text

/-- Whether a character lies in one of the stretches that a list of bounds describes: the code
points, ascending, at which stretches begin and end by turns. -/
def isWithin (bounds : List Nat) (c : Char) : Bool :=
  (bounds.takeWhile (· ≤ c.toNat)).length % 2 == 1

end PaymentUri.Text
