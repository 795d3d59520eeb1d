import QueryDesk.Number.Double
import QueryDesk.Text.Blank

/-!
# Numerals

Numbers that people write into settings: an optional sign, digits with single underscores between
them, a point and an exponent, or the words for infinity and for what is not a number.
`Numeral.ofText?` reads any of these, `wholeNumber?` reads a whole number, whose fraction may only
consist of zeros.
-/

namespace QueryDesk

inductive Numeral
  /-- The number `digits · 10 ^ exponent`, negated if `negative`. -/
  | decimal (negative : Bool) (digits : Nat) (exponent : Int)
  | infinity (negative : Bool)
  | nan (negative : Bool)
  deriving DecidableEq, Repr

namespace Numeral

/-- The number that a run of ASCII digits stands for. -/
def ofDigits (s : List Letter) : Nat :=
  s.foldl (fun n c => 10 * n + (c.toNat - 0x30)) 0

/-- The text without its underscores, each of which has to stand between two digits. -/
def dropUnderscores? : List Letter → Option (List Letter)
  | a :: .char '_' :: b :: rest =>
    if a.isDigit && b.isDigit then (dropUnderscores? (b :: rest)).map (a :: ·) else none
  | c :: rest => if c = '_' then none else (dropUnderscores? rest).map (c :: ·)
  | [] => some []

/-- An optional sign at the start: whether it is a minus, and the rest. -/
def sign : List Letter → Bool × List Letter
  | .char '-' :: rest => (true, rest)
  | .char '+' :: rest => (false, rest)
  | s => (false, s)

/-- The exponent part after the digits of a numeral, which may be absent. -/
def exponent? : List Letter → Option Int
  | [] => some 0
  | c :: rest =>
    let (negative, digits) := sign rest
    if (c = 'e' || c = 'E') && !digits.isEmpty && digits.all Letter.isDigit then
      some (if negative then -(ofDigits digits : Int) else ofDigits digits)
    else none

/-- A numeral without sign: digits with an optional point, then an optional exponent part. -/
def unsigned? (negative : Bool) (s : List Letter) : Option Numeral :=
  let whole := s.takeWhile Letter.isDigit
  let (fraction, rest) :=
    match s.dropWhile Letter.isDigit with
    | .char '.' :: t => (t.takeWhile Letter.isDigit, t.dropWhile Letter.isDigit)
    | t => ([], t)
  if whole.isEmpty && fraction.isEmpty then none
  else
    (exponent? rest).map fun e =>
      .decimal negative (ofDigits (whole ++ fraction)) (e - fraction.length)

/-- The numeral that a text is, without blanks around it. -/
def ofText? (s : List Letter) : Option Numeral :=
  let (negative, rest) := sign s
  let word := rest.map Letter.toLower
  if word = ("inf" : Text).toList || word = ("infinity" : Text).toList then
    some (.infinity negative)
  else if word = ("nan" : Text).toList then some (.nan negative)
  else (dropUnderscores? rest).bind (unsigned? negative)

def toDouble : Numeral → Double
  | decimal negative digits exponent => Double.ofDecimal negative digits exponent
  | infinity negative => .infinite negative
  | nan _ => .nan

/-- The whole number that a text is: the digits may be followed by a point and zeros. -/
def wholeNumber? (s : List Letter) : Option Int :=
  let (negative, rest) := sign s
  let whole := rest.takeWhile (· ≠ .char '.')
  let zeros? :=
    match rest.dropWhile (· ≠ .char '.') with
    | [] => true
    | _ :: fraction => !fraction.isEmpty && fraction.all (· = .char '0')
  match dropUnderscores? whole with
  | some digits =>
    if zeros? && !digits.isEmpty && digits.all Letter.isDigit then
      some (if negative then -(ofDigits digits : Int) else ofDigits digits)
    else none
  | none => none

end Numeral

end QueryDesk
