namespace PaymentUri.Yaml

structure Cursor where
  size : Nat
  rest : List Char
  index : Nat
  line : Nat
  column : Nat

def isBreak (c : Char) : Bool :=
  c == '\n' || c == '\r' || c == '\u0085' || c == '\u2028' || c == '\u2029'

namespace Cursor

def start (text : List Char) : Cursor := ⟨text.length, text, 0, 0, 0⟩

def fuel (c : Cursor) : Nat := c.size - c.index + 1

def peek? (c : Cursor) (n : Nat) : Option Char := c.rest[n]?

def isAt (c : Cursor) (ch : Char) : Bool := c.rest.head? == some ch

def isAtEnd (c : Cursor) : Bool := c.rest.isEmpty

def isAtLineEnd (c : Cursor) : Bool := c.rest.head?.all isBreak

def isAtBreak (c : Cursor) : Bool := c.rest.head?.any isBreak

def isSpaceAt (c : Cursor) (n : Nat) : Bool :=
  (c.peek? n).all fun ch => ch == ' ' || ch == '\t' || isBreak ch

def next (c : Cursor) : Cursor :=
  match c.rest with
  | [] => c
  | ch :: cs =>
      if isBreak ch && !(ch == '\r' && cs.head? == some '\n') then
        { c with rest := cs, index := c.index + 1, line := c.line + 1, column := 0 }
      else
        { c with
          rest := cs
          index := c.index + 1
          column := if ch == '\uFEFF' then c.column else c.column + 1 }

def skip : Nat → Cursor → Cursor
  | 0, c => c
  | n + 1, c => skip n c.next

def takeWhile (c : Cursor) (p : Char → Bool) : List Char × Cursor :=
  let taken := c.rest.takeWhile p
  (taken, c.skip taken.length)

def skipWhile (c : Cursor) (p : Char → Bool) : Cursor := (c.takeWhile p).2

def skipSpaces (c : Cursor) : Cursor := c.skipWhile (· == ' ')

/-- The line break at the cursor, in its usual form, and the place behind it. -/
def takeBreak (c : Cursor) : List Char × Cursor :=
  match c.rest with
  | '\r' :: '\n' :: _ => (['\n'], c.skip 2)
  | ch :: _ =>
      if ch == '\u2028' || ch == '\u2029' then ([ch], c.next)
      else if isBreak ch then (['\n'], c.next)
      else ([], c)
  | [] => ([], c)

def isAtMark (c : Cursor) (mark : Char) : Bool :=
  c.rest.take 3 == [mark, mark, mark] && c.isSpaceAt 3

def isAtSeparator (c : Cursor) : Bool := c.isAtMark '-' || c.isAtMark '.'

end Cursor

end PaymentUri.Yaml
