import QueryDesk.Number.Whole
import QueryDesk.Text.Place

/-!
# Why a text is not JSON

A `Json.SyntaxFault` is a departure from the grammar and stands at a place. Two more causes end a
reading without one: a whole number with too many digits, and one of the three names of non-finite
numbers where they are refused.
-/

namespace QueryDesk.Json

/-- A departure from the grammar. -/
inductive SyntaxFault
  | byteOrderMark
  /-- A value had to start here. -/
  | value
  | memberName
  /-- A colon had to follow the member's name. -/
  | colon
  /-- A comma or the end of the array or object had to follow. -/
  | comma
  | extraData
  /-- The string that starts here does not end. -/
  | unterminatedString
  /-- A control character stands in a string. -/
  | controlCharacter
  | escape
  /-- A numeric escape without four hexadecimal digits. -/
  | numericEscape
  deriving DecidableEq, Repr

def SyntaxFault.describe : SyntaxFault → Text
  | byteOrderMark => "Unexpected UTF-8 BOM (decode using utf-8-sig)"
  | value => "Expecting value"
  | memberName => "Expecting property name enclosed in double quotes"
  | colon => "Expecting ':' delimiter"
  | comma => "Expecting ',' delimiter"
  | extraData => "Extra data"
  | unterminatedString => "Unterminated string starting at"
  | controlCharacter => "Invalid control character at"
  | escape => "Invalid \\escape"
  | numericEscape => "Invalid \\uXXXX escape"

inductive ReadFault
  | syntaxAt (fault : SyntaxFault) (place : Text.Place)
  /-- A whole number with more digits than are accepted. -/
  | tooManyDigits (count : Nat)
  | nonFinite (name : Text)
  deriving DecidableEq, Repr

def ReadFault.message : ReadFault → Text
  | syntaxAt fault place => fault.describe ++ ": " ++ place.describe
  | tooManyDigits count =>
    tooManyDigitsMessage (": value has " ++ toString count ++ " digits")
  | nonFinite name => "non-finite number " ++ name ++ " is not supported"

end QueryDesk.Json
