/-!
# Double-precision numbers

A `Double` is a finite number `±significand · 2^exponent`, an infinity, or not a number. The bounds
in `FiniteDouble` make its form unique, so that two finite doubles are equal exactly if their signs,
significands and exponents are. `Double.ofRatio` rounds a quotient to the nearest double, a half to
the even significand; `Double.ofDecimal` reads a decimal through it.
-/

namespace QueryDesk

/-! ## Rounding a quotient -/

/-- The whole number nearest to `num / den`; a half goes to the even one. -/
def roundHalfEven (num den : Nat) : Nat :=
  let low := num / den
  let rest := num % den
  if 2 * rest < den then low
  else if den < 2 * rest then low + 1
  else if low % 2 = 0 then low
  else low + 1

/-- A whole quotient is kept. -/
theorem roundHalfEven_mul (n : Nat) {den : Nat} (h : 0 < den) :
    roundHalfEven (n * den) den = n := by
  simp [roundHalfEven, Nat.mul_mod_left, h]

/-- Rounding moves a quotient by at most one half. -/
theorem two_mul_roundHalfEven_le (num : Nat) {den : Nat} (h : 0 < den) :
    2 * (roundHalfEven num den * den) ≤ 2 * num + den ∧
      2 * num ≤ 2 * (roundHalfEven num den * den) + den := by
  have split : num / den * den + num % den = num := Nat.div_add_mod' num den
  have small : num % den < den := Nat.mod_lt num h
  have next : (num / den + 1) * den = num / den * den + den := Nat.succ_mul _ _
  simp only [roundHalfEven]
  split
  · omega
  · split
    · omega
    · split <;> omega

/-- The largest `k` with `2 ^ k ≤ num / den`, for positive `num` and `den`. -/
def floorLog2 (num den : Nat) : Int :=
  let guess : Int := num.log2 - den.log2
  let reached :=
    if 0 ≤ guess then den * Nat.pow 2 guess.toNat ≤ num
    else den ≤ num * Nat.pow 2 (-guess).toNat
  if reached then guess else guess - 1

/-! ## The numbers -/

/-- The least exponent of a double. -/
def Double.minExponent : Int := -1074

def Double.maxExponent : Int := 971

/-- Significand and exponent in their one form: 53 bits, fewer only at the least exponent. -/
abbrev Double.Canonical (significand : Nat) (exponent : Int) : Prop :=
  significand < Nat.pow 2 53 ∧ Double.minExponent ≤ exponent ∧ exponent ≤ Double.maxExponent ∧
    (Nat.pow 2 52 ≤ significand ∨ exponent = Double.minExponent)

/-- The number `significand · 2 ^ exponent`, negated if `negative`. Zero has both signs. -/
structure FiniteDouble where
  negative : Bool
  significand : Nat
  /-- The power of two it is scaled by. -/
  exponent : Int
  /-- The form is the only one of the number. -/
  canonical : Double.Canonical significand exponent
  deriving DecidableEq

inductive Double
  | finite (x : FiniteDouble)
  | infinite (negative : Bool)
  | nan
  deriving DecidableEq

namespace Double

/-- Whether the number is neither an infinity nor not a number. -/
def isFinite : Double → Bool
  | finite _ => true
  | _ => false

def zero (negative : Bool) : Double :=
  finite ⟨negative, 0, minExponent, by decide⟩

/-- The double of a rounded significand; one that is too large for a double is infinite. -/
def ofScaled (negative : Bool) (significand : Nat) (exponent : Int) : Double :=
  if h : Canonical significand exponent then finite ⟨negative, significand, exponent, h⟩
  else infinite negative

/-- The double nearest to `num / den`, a half to the even significand. -/
def ofRatio (negative : Bool) (num den : Nat) : Double :=
  if num = 0 then zero negative
  else
    let exponent := max (floorLog2 num den - 52) minExponent
    let significand :=
      if 0 ≤ exponent then roundHalfEven num (den * Nat.pow 2 exponent.toNat)
      else roundHalfEven (num * Nat.pow 2 (-exponent).toNat) den
    if significand = Nat.pow 2 53 then ofScaled negative (Nat.pow 2 52) (exponent + 1)
    else ofScaled negative significand exponent

/-- How many decimal digits a number has. -/
def decimalLength (n : Nat) : Nat :=
  (Nat.toDigits 10 n).length

/-- The double nearest to `digits · 10 ^ exponent`. Magnitudes from `10 ^ 400` on are infinite and
those below `10 ^ -400` are zero, so no power outside that range is computed. -/
def ofDecimal (negative : Bool) (digits : Nat) (exponent : Int) : Double :=
  let magnitude := exponent + decimalLength digits
  if digits = 0 then zero negative
  else if 400 < magnitude then infinite negative
  else if magnitude < -400 then zero negative
  else if 0 ≤ exponent then ofRatio negative (digits * Nat.pow 10 exponent.toNat) 1
  else ofRatio negative digits (Nat.pow 10 (-exponent).toNat)

/-- The double nearest to a whole number. -/
def ofInt (n : Int) : Double :=
  ofRatio (n < 0) n.natAbs 1

def one : Double :=
  ofInt 1

end Double

/-! ## Exact comparison -/

/-- The magnitude as a quotient of whole numbers. -/
def FiniteDouble.ratio (x : FiniteDouble) : Nat × Nat :=
  if 0 ≤ x.exponent then (x.significand * Nat.pow 2 x.exponent.toNat, 1)
  else (x.significand, Nat.pow 2 (-x.exponent).toNat)

/-- The number as a signed numerator over a positive denominator. -/
def FiniteDouble.signedRatio (x : FiniteDouble) : Int × Nat :=
  let (num, den) := x.ratio
  (if x.negative then -(num : Int) else num, den)

/-- Numeric equality: the signs of zero agree and nothing equals `nan`. -/
def Double.equals : Double → Double → Bool
  | .finite x, .finite y =>
    let (a, b) := x.signedRatio
    let (c, d) := y.signedRatio
    a * d == c * b
  | .infinite a, .infinite b => a == b
  | _, _ => false

def Double.equalsInt : Double → Int → Bool
  | .finite x, n =>
    let (a, b) := x.signedRatio
    a == n * b
  | _, _ => false

/-- A number other than `nan` equals itself. -/
theorem Double.equals_self {x : Double} (h : x ≠ .nan) : x.equals x = true := by
  cases x with
  | finite x => simp [Double.equals]
  | infinite s => simp [Double.equals]
  | nan => exact absurd rfl h

end QueryDesk
