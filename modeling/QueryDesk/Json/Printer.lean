import QueryDesk.Json.Basic
import QueryDesk.Number.Shortest
import QueryDesk.Text.Hex

/-!
# Writing JSON text

`Json.write` writes a value in a style: what separates items and names, and how the characters of a
string are shown. The wire style has no blanks and shows every letter but quotes, backslashes and
controls as itself, so that half of a pair of UTF-16 units stays in the text; the spaced style puts
a blank after each separator and shows only ASCII. A whole number with too many digits has no text.
-/

namespace QueryDesk.Json

/-- How JSON text is laid out. -/
structure Style where
  /-- What stands between two items. -/
  comma : List Letter
  /-- What stands between a name and its value. -/
  colon : List Letter
  /-- How a character of a string is shown. -/
  character : Letter → List Letter

/-- A UTF-16 unit as a numeric escape. -/
def numericEscape (code : Nat) : List Letter :=
  .char '\\' :: .char 'u' :: Text.Hex.digits 4 code

/-- The escape of a character that has a letter of its own after the backslash. -/
def letterEscape? : Letter → Option (List Letter)
  | .char '\x22' => some [.char '\\', .char '\x22']
  | .char '\\' => some [.char '\\', .char '\\']
  | .char '\n' => some [.char '\\', .char 'n']
  | .char '\r' => some [.char '\\', .char 'r']
  | .char '\t' => some [.char '\\', .char 't']
  | .char '\x08' => some [.char '\\', .char 'b']
  | .char '\x0c' => some [.char '\\', .char 'f']
  | _ => none

/-- A character that is shown as itself unless it has to be escaped. -/
def plainCharacter (c : Letter) : List Letter :=
  match letterEscape? c with
  | some escape => escape
  | none => if c.toNat < 0x20 then numericEscape c.toNat else [c]

/-- A character in ASCII; beyond U+FFFF it takes the escapes of a pair of UTF-16 units. -/
def asciiCharacter (c : Letter) : List Letter :=
  match letterEscape? c with
  | some escape => escape
  | none =>
    if 0x20 ≤ c.toNat && c.toNat < 0x7F then [c]
    else if c.toNat < 0x10000 then numericEscape c.toNat
    else
      -- twenty bits, ten in each unit
      let n := c.toNat - 0x10000
      numericEscape (0xD800 + n / 0x400) ++ numericEscape (0xDC00 + n % 0x400)

/-- The style of texts on the wire. -/
def Style.wire : Style := ⟨[.char ','], [.char ':'], plainCharacter⟩

@[simp] theorem Style.comma_wire : Style.wire.comma = [.char ','] := rfl

@[simp] theorem Style.colon_wire : Style.wire.colon = [.char ':'] := rfl

@[simp] theorem Style.character_wire : Style.wire.character = plainCharacter := rfl

/-- A style with blanks, in ASCII. -/
def Style.spaced : Style := ⟨[.char ',', .char ' '], [.char ':', .char ' '], asciiCharacter⟩

def writeString (style : Style) (s : Text) : List Letter :=
  .char '\x22' :: s.toList.flatMap style.character ++ [.char '\x22']

/-- The digits of a whole number, however many they are. -/
def writeInt (n : Int) : List Letter :=
  if n < 0 then .char '-' :: decimalDigits n.natAbs else decimalDigits n.natAbs

mutual

def write (style : Style) : Json → List Letter
  | null => [.char 'n', .char 'u', .char 'l', .char 'l']
  | bool true => [.char 't', .char 'r', .char 'u', .char 'e']
  | bool false => [.char 'f', .char 'a', .char 'l', .char 's', .char 'e']
  | int n => writeInt n
  | double x => DoubleLayout.json.write x
  | str s => writeString style s
  | arr [] => [.char '[', .char ']']
  | arr (item :: rest) => .char '[' :: write style item ++ writeItems style rest
  | obj [] => [.char '\x7b', .char '\x7d']
  | obj ((name, value) :: rest) =>
    .char '\x7b' :: writeString style name ++ style.colon ++ write style value ++
      writeMembers style rest

/-- The items after the first one and the closing bracket. -/
def writeItems (style : Style) : List Json → List Letter
  | [] => [.char ']']
  | item :: rest => style.comma ++ write style item ++ writeItems style rest

/-- The members after the first one and the closing brace. -/
def writeMembers (style : Style) : List (Text × Json) → List Letter
  | [] => [.char '\x7d']
  | (name, value) :: rest =>
    style.comma ++ writeString style name ++ style.colon ++ write style value ++
      writeMembers style rest

end

/-- The text of a value in a style, unless a whole number in it has too many digits. -/
def text? (style : Style) (value : Json) : Option Text :=
  if value.hasFewDigits then some (.ofList (write style value)) else none

/-- The text of a value on the wire. -/
def wire? (value : Json) : Option Text :=
  value.text? .wire

theorem wire?_eq_some_iff {value : Json} {text : Text} :
    value.wire? = some text ↔ value.hasFewDigits = true ∧ .ofList (write .wire value) = text := by
  rw [wire?, text?, Option.ite_none_right_eq_some, Option.some.injEq]

def spaced? (value : Json) : Option Text :=
  value.text? .spaced

end QueryDesk.Json
