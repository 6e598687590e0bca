import PaymentUri.Yaml.Cursor
import PaymentUri.Yaml.Fault

namespace PaymentUri.Yaml

def escapedChar? : Char → Option Char
  | '0' => some '\x00'
  | 'a' => some '\x07'
  | 'b' => some '\x08'
  | 't' => some '\t'
  | '\t' => some '\t'
  | 'n' => some '\n'
  | 'v' => some '\x0b'
  | 'f' => some '\x0c'
  | 'r' => some '\r'
  | 'e' => some '\x1b'
  | ' ' => some ' '
  | '"' => some '"'
  | '\\' => some '\\'
  | '/' => some '/'
  | 'N' => some '\u0085'
  | '_' => some '\u00a0'
  | 'L' => some '\u2028'
  | 'P' => some '\u2029'
  | _ => none

def escapeWidth? : Char → Option Nat
  | 'x' => some 2
  | 'u' => some 4
  | 'U' => some 8
  | _ => none

def charOf (n : Nat) : Except Fault Char :=
  if 0x80000000 ≤ n then .error .hugeCharacter
  else if 0x110000 ≤ n then .error .noCharacter
  else if 0xD800 ≤ n ∧ n < 0xE000 then .ok '\uFFFD'
  else .ok (Char.ofNat n)

def emptyLines : Nat → List Char → Cursor → Except Fault (List Char × Cursor)
  | 0, _, _ => .error .malformed
  | fuel + 1, before, c =>
      if c.isAtSeparator then .error .malformed
      else
        let c := c.skipWhile fun ch => ch == ' ' || ch == '\t'
        if c.isAtBreak then emptyLines fuel (c.takeBreak.1 ++ before) c.takeBreak.2
        else .ok (before.reverse, c)

/-- A line break between words is a space; with empty lines behind it, it is nothing. -/
def foldBreak (first breaks : List Char) : List Char :=
  if first != ['\n'] then first ++ breaks else if breaks.isEmpty then [' '] else breaks

def quotedSpace (fuel : Nat) (c : Cursor) : Except Fault (List Char × Cursor) :=
  let (blanks, c) := c.takeWhile fun ch => ch == ' ' || ch == '\t'
  if c.isAtEnd then .error .malformed
  else if c.isAtBreak then do
    let (b, c) := c.takeBreak
    let (bs, c) ← emptyLines fuel [] c
    return (foldBreak b bs, c)
  else .ok (blanks, c)

def numericEscape (width : Nat) (c : Cursor) : Except Fault (List Char × Cursor) := do
  let ds := c.rest.take width
  if ds.length < width then throw .malformed
  let ch ← charOf (← orMalformed (Text.hexNumber? ds))
  return ([ch], c.skip width)

def escape (fuel : Nat) (c : Cursor) : Except Fault (List Char × Cursor) :=
  match c.rest with
  | [] => .error .malformed
  | ch :: _ =>
      match escapedChar? ch, escapeWidth? ch with
      | some e, _ => .ok ([e], c.next)
      | none, some width => numericEscape width c.next
      | none, none =>
          if isBreak ch then emptyLines fuel [] c.takeBreak.2 else .error .malformed

def quotedPiece (mark : Char) (fuel : Nat) (c : Cursor) : Except Fault (Option (List Char) × Cursor) :=
  let piece (read : Except Fault (List Char × Cursor)) := read.map fun p => (some p.1, p.2)
  match c.rest with
  | [] => .error .malformed
  | ch :: cs =>
      if ch == mark then
        if mark == '\'' && cs.head? == some '\'' then .ok (some ['\''], c.skip 2)
        else .ok (none, c.next)
      else if ch == '\\' && mark == '"' then piece (escape fuel c.next)
      else if ch == ' ' || ch == '\t' || isBreak ch then piece (quotedSpace fuel c)
      else .ok (some [ch], c.next)

def quotedText (mark : Char) : Nat → List (List Char) → Cursor → Except Fault (List Char × Cursor)
  | 0, _, _ => .error .malformed
  | fuel + 1, before, c =>
      match quotedPiece mark (fuel + 1) c with
      | .error fault => .error fault
      | .ok (none, c) => .ok (before.reverse.flatten, c)
      | .ok (some piece, c) => quotedText mark fuel (piece :: before) c

end PaymentUri.Yaml
