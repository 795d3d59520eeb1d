import QueryDesk.Text.Basic

/-!
# Places in a text

A place is a number of characters from the start, with the line and the column that a reader would
name. Lines end at line feeds only.
-/

namespace QueryDesk.Text

/-- A place in a text: characters before it, and its line and column counted from one. -/
structure Place where
  /-- Characters before the place. -/
  offset : Nat
  line : Nat
  column : Nat
  deriving DecidableEq, Repr

/-- The place after the first `offset` characters of a text. -/
def Place.ofOffset (s : List Letter) (offset : Nat) : Place :=
  let before := s.take offset
  { offset
    line := 1 + before.count (.char '\n')
    column := 1 + (before.reverse.takeWhile (· ≠ .char '\n')).length }

/-- How a message names a place. -/
def Place.describe (p : Place) : Text :=
  "line " ++ toString p.line ++ " column " ++ toString p.column ++ " (char " ++
    toString p.offset ++ ")"

end QueryDesk.Text
