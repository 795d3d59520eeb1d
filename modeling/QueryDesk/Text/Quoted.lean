import QueryDesk.Text.Hex
import QueryDesk.Text.Printable

/-!
# Quoted texts

Journal entries and messages show a text between quotes. The quote is an apostrophe unless the
text holds one and holds no double quote. The chosen quote and the backslash are escaped by a
backslash, tab, line feed and carriage return have letters, and any other character without a
visible form is shown by its code point.
-/

namespace QueryDesk.Text

/-- The quote that a text is shown in. -/
def quoteFor (s : List Letter) : Letter :=
  if s.contains (.char '\x27') && !s.contains (.char '\x22') then '\x22' else '\x27'

/-- A code point in the shortest of the three escape forms. -/
def escapedCode (n : Nat) : List Letter :=
  if n < 0x100 then .char '\\' :: .char 'x' :: Hex.digits 2 n
  else if n < 0x10000 then .char '\\' :: .char 'u' :: Hex.digits 4 n
  else .char '\\' :: .char 'U' :: Hex.digits 8 n

/-- One character as it is shown between two `quote` characters. -/
def quotedChar (quote c : Letter) : List Letter :=
  if c = quote || c = '\\' then [.char '\\', c]
  else if c = '\t' then [.char '\\', .char 't']
  else if c = '\n' then [.char '\\', .char 'n']
  else if c = '\r' then [.char '\\', .char 'r']
  else if isPrintable c then [c]
  else escapedCode c.toNat

/-- The text between quotes. -/
def quotedChars (s : List Letter) : List Letter :=
  let quote := quoteFor s
  quote :: s.flatMap (quotedChar quote) ++ [quote]

def quoted (s : Text) : Text :=
  .ofList (quotedChars s.toList)

/-- An optional text between quotes; nothing is shown as `None`. -/
def quotedOption : Option Text → Text
  | some s => quoted s
  | none => "None"

end QueryDesk.Text
