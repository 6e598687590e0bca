import PaymentUri.Yaml.Quoted

namespace PaymentUri.Yaml

def flowMarks : List Char := ",?[]\x7b\x7d".toList

/-- Whether a word ends in front of some characters: at a blank, a colon with a blank behind it, or a
mark. -/
def endsWord (inFlow : Bool) : List Char → Bool
  | [] => true
  | ch :: cs =>
      let colonEnds := cs.head?.all fun d =>
        d == ' ' || d == '\t' || isBreak d || inFlow && ",[]\x7b\x7d".toList.contains d
      ch == ' ' || ch == '\t' || isBreak ch || ch == ':' && colonEnds ||
        inFlow && flowMarks.contains ch

def plainWord (inFlow : Bool) (before : List Char) : List Char → List Char
  | [] => before.reverse
  | ch :: cs =>
      if endsWord inFlow (ch :: cs) then before.reverse else plainWord inFlow (ch :: before) cs

def plainBreaks : Nat → List Char → Cursor → Option (List Char × Cursor)
  | 0, _, _ => none
  | fuel + 1, before, c =>
      if c.isAtSeparator then none
      else
        let c := c.skipSpaces
        if c.isAtBreak then plainBreaks fuel (c.takeBreak.1 ++ before) c.takeBreak.2
        else some (before.reverse, c)

/-- The space after a word of a plain scalar, whether a line ended in it, and the place behind it.
No space means that the scalar ends. -/
def plainSpace (fuel : Nat) (c : Cursor) : List Char × Bool × Cursor :=
  let (blanks, c) := c.takeWhile (· == ' ')
  if c.isAtBreak then
    let (b, c) := c.takeBreak
    match plainBreaks fuel [] c with
    | some (bs, c) => (foldBreak b bs, true, c)
    | none => ([], true, c)
  else (blanks, false, c)

def plainText (inFlow : Bool) (indent : Int) :
    Nat → List (List Char) → Bool → Cursor → List Char × Bool × Cursor
  | 0, before, broken, c => (before.reverse.flatten, broken, c)
  | fuel + 1, before, broken, c =>
      let word := plainWord inFlow [] c.rest
      -- the space in front of what is no word does not belong to the scalar
      if c.isAt '#' || word.isEmpty then (before.tail.reverse.flatten, broken, c)
      else
        let (space, broken, after) := plainSpace (fuel + 1) (c.skip word.length)
        if space.isEmpty || after.isAt '#' || !inFlow && after.column < indent then
          ((word :: before).reverse.flatten, broken, after)
        else plainText inFlow indent fuel (space :: word :: before) broken after

inductive Chomping where
  | strip
  | clip
  | keep
deriving DecidableEq

def chomping? : Char → Option Chomping
  | '-' => some .strip
  | '+' => some .keep
  | _ => none

def increment? (ch : Char) : Option Nat :=
  if '1' ≤ ch && ch ≤ '9' then some (ch.toNat - '0'.toNat) else none

def blockHeader (c : Cursor) : Chomping × Option Nat × Cursor :=
  let first := c.peek? 0
  let second := c.peek? 1
  match first.bind chomping?, first.bind increment? with
  | some m, _ => match second.bind increment? with
    | some n => (m, some n, c.skip 2)
    | none => (m, none, c.next)
  | none, some n => match second.bind chomping? with
    | some m => (m, some n, c.skip 2)
    | none => (.clip, some n, c.next)
  | none, none => (.clip, none, c)

def headerEnd (c : Cursor) : Option Cursor :=
  if !c.isSpaceAt 0 then none
  else
    let c := c.skipSpaces
    let c := if c.isAt '#' then c.skipWhile (!isBreak ·) else c
    if c.isAtLineEnd then some c.takeBreak.2 else none

def leadingLines : Nat → List Char → Nat → Cursor → List Char × Nat × Cursor
  | 0, before, widest, c => (before.reverse, widest, c)
  | fuel + 1, before, widest, c =>
      let c := c.skipSpaces
      let widest := max widest c.column
      if c.isAtBreak then leadingLines fuel (c.takeBreak.1 ++ before) widest c.takeBreak.2
      else (before.reverse, widest, c)

def skipTo (column : Nat) (c : Cursor) : Cursor :=
  c.skip (min (column - c.column) (c.rest.takeWhile (· == ' ')).length)

def blockBreaks (indent : Nat) : Nat → List Char → Cursor → List Char × Cursor
  | 0, before, c => (before.reverse, c)
  | fuel + 1, before, c =>
      let c := skipTo indent c
      if c.isAtBreak then blockBreaks indent fuel (c.takeBreak.1 ++ before) c.takeBreak.2
      else (before.reverse, c)

/-- The lines of a block behind some pieces and some empty lines, the break that ends the last of
them, the empty lines behind it and the place where the block ends. -/
def blockLines (folded : Bool) (indent : Nat) :
    Nat → List (List Char) → List Char → Cursor → List Char × List Char × List Char × Cursor
  | 0, before, breaks, c => (before.reverse.flatten, [], breaks, c)
  | fuel + 1, before, breaks, c =>
      if c.column != indent || c.isAtEnd then (before.reverse.flatten, [], breaks, c)
      else
        let indented := c.isAt ' ' || c.isAt '\t'
        let (line, c) := c.takeWhile (!isBreak ·)
        let (b, c) := c.takeBreak
        let (bs, c) := blockBreaks indent (fuel + 1) [] c
        let before := line :: breaks :: before
        if c.column == indent && !c.isAtEnd then
          -- lines are not joined where one of them begins with a blank
          let joined := folded && b == ['\n'] && !indented && !c.isAt ' ' && !c.isAt '\t'
          let space := if joined then if bs.isEmpty then [' '] else [] else b
          blockLines folded indent fuel (space :: before) bs c
        else (before.reverse.flatten, b, bs, c)

def blockText (folded : Bool) (indent : Int) (c : Cursor) : Option (List Char × Cursor) := do
  let fuel := c.fuel
  let (chomping, increment, c) := blockHeader c
  let c ← headerEnd c
  let least := max 1 (indent + 1).toNat
  let (breaks, column, c) := match increment with
    | some n =>
        let column := least + n - 1
        let (bs, c) := blockBreaks column fuel [] c
        (bs, column, c)
    | none =>
        let (bs, widest, c) := leadingLines fuel [] 0 c
        (bs, max least widest, c)
  let (text, last, after, c) := blockLines folded column fuel [] breaks c
  let ending := match chomping with
    | .strip => []
    | .clip => last
    | .keep => last ++ after
  return (text ++ ending, c)

end PaymentUri.Yaml
