import QueryDesk.Number.Numeral

/-!
# Decimal numbers

A `Decimal` keeps the digits it was written with, so `1.50` and `1.5` are two decimals of one
value. `Decimal.text` is the scientific text of decimal arithmetic: positional where the exponent is
not positive and at most five zeros follow the point, with an exponent part elsewhere.
-/

namespace QueryDesk

/-- A decimal number with its precision. -/
inductive Decimal
  /-- The number `coefficient · 10 ^ exponent`, negated if `negative`. -/
  | finite (negative : Bool) (coefficient : Nat) (exponent : Int)
  | infinite (negative : Bool)
  | nan (negative : Bool)
  deriving DecidableEq

namespace Decimal

def ofNumeral : Numeral → Decimal
  | .decimal negative digits exponent => finite negative digits exponent
  | .infinity negative => infinite negative
  | .nan negative => nan negative

/-- The decimal in the 128-bit interchange format, which has 34 digits and exponents from -6176 to
6111. Zeros at the end of a coefficient make a number fit: they are dropped where it has too many
digits or too small an exponent, and added where its exponent is too large. What is not a number has
no sign there. -/
def to128 : Decimal → Decimal
  | finite negative coefficient exponent =>
    if coefficient = 0 then finite negative 0 (min (max exponent (-6176)) 6111)
    else if 6111 < exponent then
      finite negative (coefficient * Nat.pow 10 (exponent - 6111).toNat) 6111
    else
      let least := max (-6176) (exponent + (Nat.toDigits 10 coefficient).length - 34)
      if exponent < least then
        finite negative (coefficient / Nat.pow 10 (least - exponent).toNat) least
      else finite negative coefficient exponent
  | infinite negative => infinite negative
  | nan _ => nan false

/-- The digits of a coefficient with a point before the last `places` of them. -/
def pointed (digits : List Char) (places : Nat) : List Char :=
  if places = 0 then digits
  else if digits.length ≤ places then
    '0' :: '.' :: List.replicate (places - digits.length) '0' ++ digits
  else digits.take (digits.length - places) ++ '.' :: digits.drop (digits.length - places)

/-- A magnitude in scientific text. -/
def magnitude (coefficient : Nat) (exponent : Int) : List Char :=
  let digits := Nat.toDigits 10 coefficient
  let adjusted := exponent + digits.length - 1
  if exponent ≤ 0 && -6 ≤ adjusted then pointed digits (-exponent).toNat
  else
    pointed digits (digits.length - 1) ++
      'E' :: (if adjusted < 0 then '-' else '+') :: Nat.toDigits 10 adjusted.natAbs

/-- The scientific text of a decimal. -/
def text : Decimal → String
  | finite negative coefficient exponent =>
    .ofList ((if negative then ['-'] else []) ++ magnitude coefficient exponent)
  | infinite negative => if negative then "-Infinity" else "Infinity"
  | nan negative => if negative then "-NaN" else "NaN"

/-- The value as a signed numerator over a positive denominator. -/
def ratio (negative : Bool) (coefficient : Nat) (exponent : Int) : Int × Nat :=
  let signed : Int := if negative then -(coefficient : Int) else coefficient
  if 0 ≤ exponent then (signed * Int.pow 10 exponent.toNat, 1)
  else (signed, Nat.pow 10 (-exponent).toNat)

/-- Numeric equality of decimals, whatever their precision. -/
def equals : Decimal → Decimal → Bool
  | finite s m e, finite t n f =>
    let (a, b) := ratio s m e
    let (c, d) := ratio t n f
    a * d == c * b
  | infinite s, infinite t => s == t
  | _, _ => false

def equalsInt : Decimal → Int → Bool
  | finite s m e, n =>
    let (a, b) := ratio s m e
    a == n * b
  | _, _ => false

def equalsDouble : Decimal → Double → Bool
  | finite s m e, .finite x =>
    let (a, b) := ratio s m e
    let (c, d) := x.signedRatio
    a * d == c * b
  | infinite s, .infinite t => s == t
  | _, _ => false

end Decimal

end QueryDesk
