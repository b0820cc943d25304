import ScriptScan.Text.Basic
import ScriptScan.Text.Lines

/-! # Places in a text

A place names a character by its line and column. `placeAt` finds the place of the character that
starts at a byte position, going from line to line; a position past the last character, or inside a
character, has none. -/

namespace ScriptScan.Text

/-- The line with its terminator, its number counted from one, and the number of characters of the
line before the place. -/
structure Place where
  number : Nat
  line : Text
  column : Nat
deriving Repr, DecidableEq

/-- Walks over `bytes` bytes of the text in front of it. The first part of the result holds the
characters passed, the latest first; none if the walk ends inside a character or past the end. -/
def walk (passed : Text) : Nat → Text → Option (Text × Text)
  | 0, ahead => some (passed, ahead)
  | _ + 1, [] => none
  | bytes + 1, c :: ahead =>
    if c.utf8Size ≤ bytes + 1 then walk (c :: passed) (bytes + 1 - c.utf8Size) ahead else none

/-- Looks for a byte position in lines, the first of which has the number `number` and starts at the
byte position `start`. -/
def placeIn (position number start : Nat) : List Text → Option Place
  | [] => none
  | line :: lines =>
    let stop := start + byteLength line
    if start ≤ position ∧ position < stop then
      (walk [] (position - start) line).map fun cut => { number, line, column := cut.1.length }
    else placeIn position (number + 1) stop lines

/-- The place of the character that starts at a byte position. -/
def placeAt (content : Text) (position : Nat) : Option Place :=
  if byteLength content ≤ position then none
  else placeIn position 1 0 (splitLines '\n' content)

end ScriptScan.Text
