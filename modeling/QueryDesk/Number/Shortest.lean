import QueryDesk.Number.Double
import QueryDesk.Number.Whole

/-!
# The shortest decimal of a double

`FiniteDouble.shortest` finds the decimal with the fewest digits that reads back as the number; of
two such decimals it takes the nearer one, and of two equally near ones the even one. Reading back
is `Double.ofDecimal` itself, and `readsBack_of_shortest?` holds by the way the decimal is searched.
`DoubleLayout` says how a decimal is written out.
-/

namespace QueryDesk

namespace FiniteDouble

/-- The largest `k` with `10 ^ k ≤ num / den`, for a positive magnitude of a double. Scaled by
`10 ^ 400` every such magnitude has a whole part. -/
def floorLog10 (num den : Nat) : Int :=
  (Double.decimalLength (num * Nat.pow 10 400 / den) : Int) - 401

/-- Whether `digits · 10 ^ exponent` reads back as the number. -/
def readsBack (x : FiniteDouble) (digits : Nat) (exponent : Int) : Bool :=
  Double.ofDecimal x.negative digits exponent == .finite x

/-- The magnitude in units of the last of `count` decimal digits, as a quotient, and the power of
ten of that unit. -/
def onGrid (x : FiniteDouble) (count : Nat) : (Nat × Nat) × Int :=
  let (num, den) := x.ratio
  let exponent := floorLog10 num den - (count - 1 : Nat)
  if 0 ≤ exponent then ((num, den * Nat.pow 10 exponent.toNat), exponent)
  else ((num * Nat.pow 10 (-exponent).toNat, den), exponent)

/-- Of the two whole numbers next to `num / den`, the one that reads back when it is scaled by the
power of ten; the nearer one if both do. -/
def neighbour? (x : FiniteDouble) (num den : Nat) (exponent : Int) : Option (Nat × Int) :=
  match x.readsBack (num / den) exponent, x.readsBack (num / den + 1) exponent with
  | true, true => some (roundHalfEven num den, exponent)
  | true, false => some (num / den, exponent)
  | false, true => some (num / den + 1, exponent)
  | false, false => none

/-- The decimal with `count` digits that reads back as the number, if there is one. -/
def decimalWith? (x : FiniteDouble) (count : Nat) : Option (Nat × Int) :=
  x.neighbour? (x.onGrid count).1.1 (x.onGrid count).1.2 (x.onGrid count).2

/-- The exact decimal of the number, with as many digits as that takes. -/
def exactDecimal (x : FiniteDouble) : Nat × Int :=
  if 0 ≤ x.exponent then (x.significand * Nat.pow 2 x.exponent.toNat, 0)
  else (x.significand * Nat.pow 5 (-x.exponent).toNat, x.exponent)

/-- The decimal with the fewest digits that reads back, if seventeen are enough. -/
def shortest? (x : FiniteDouble) : Option (Nat × Int) :=
  (List.range' 1 17).findSome? x.decimalWith?

/-- Digits and power of ten of the shortest decimal that reads back as the number. -/
def shortest (x : FiniteDouble) : Nat × Int :=
  x.shortest?.getD x.exactDecimal

/-- Rounding to a neighbour gives one of the two. -/
theorem roundHalfEven_eq_or (num den : Nat) :
    roundHalfEven num den = num / den ∨ roundHalfEven num den = num / den + 1 := by
  simp only [roundHalfEven]
  split
  · exact .inl rfl
  · split
    · exact .inr rfl
    · split
      · exact .inl rfl
      · exact .inr rfl

/-- A neighbour that was chosen reads back as the number. -/
theorem neighbour?_readsBack {x : FiniteDouble} {num den digits : Nat} {exponent exponent' : Int}
    (h : x.neighbour? num den exponent = some (digits, exponent')) :
    x.readsBack digits exponent' = true := by
  unfold neighbour? at h
  cases low : x.readsBack (num / den) exponent <;>
    cases high : x.readsBack (num / den + 1) exponent <;>
    simp only [low, high, Option.some.injEq, Prod.mk.injEq, reduceCtorEq] at h <;>
    obtain ⟨rfl, rfl⟩ := h
  · exact high
  · exact low
  · rcases roundHalfEven_eq_or num den with equal | equal
    · rw [equal]; exact low
    · rw [equal]; exact high

/-- Reading back is reading as a decimal. -/
theorem readsBack_iff {x : FiniteDouble} {digits : Nat} {exponent : Int} :
    x.readsBack digits exponent = true ↔
      Double.ofDecimal x.negative digits exponent = .finite x := by
  unfold readsBack
  exact beq_iff_eq

/-- The shortest decimal reads back as the number. -/
theorem readsBack_of_shortest? {x : FiniteDouble} {digits : Nat} {exponent : Int}
    (h : x.shortest? = some (digits, exponent)) : x.readsBack digits exponent = true := by
  obtain ⟨count, _, found⟩ := List.exists_of_findSome?_eq_some h
  unfold decimalWith? at found
  exact neighbour?_readsBack found

end FiniteDouble

/-! ## Written form -/

/-- How decimals are written out. -/
structure DoubleLayout where
  /-- The least exponent of the first digit that is written without an exponent part. -/
  positionalFrom : Int
  /-- The exponents from here on have an exponent part. -/
  positionalBelow : Int
  /-- Fewest digits of an exponent part. -/
  exponentDigits : Nat
  infinity : Text
  nan : Text

/-- Numbers in messages: exponents from `10 ^ -4` to `10 ^ 15` are written out, the exponent part
has a sign and two digits. -/
def DoubleLayout.plain : DoubleLayout := ⟨-4, 16, 2, "inf", "nan"⟩

/-- Numbers in JSON text differ from `plain` in the words for what is not finite. -/
def DoubleLayout.json : DoubleLayout := { plain with infinity := "Infinity", nan := "NaN" }

namespace DoubleLayout

/-- A whole number in at least `width` digits. -/
def padded (width n : Nat) : List Letter :=
  let text := decimalDigits n
  List.replicate (width - text.length) (.char '0') ++ text

/-- The sign and digits of an exponent part. -/
def exponentPart (layout : DoubleLayout) (exponent : Int) : List Letter :=
  .char 'e' :: (if exponent < 0 then '-' else '+') :: padded layout.exponentDigits exponent.natAbs

/-- A magnitude by its digits, without zeros at the end, and the exponent of the first one. -/
def magnitude (layout : DoubleLayout) (digits : List Letter) (exponent : Int) : List Letter :=
  if exponent < layout.positionalFrom || layout.positionalBelow ≤ exponent then
    let fraction := digits.drop 1
    digits.take 1 ++ (if fraction.isEmpty then [] else .char '.' :: fraction) ++
      layout.exponentPart exponent
  else if exponent < 0 then
    .char '0' :: .char '.' :: List.replicate (-exponent - 1).toNat (.char '0') ++ digits
  else
    let whole := exponent.toNat + 1
    let fraction := digits.drop whole
    digits.take whole ++ List.replicate (whole - digits.length) (.char '0') ++
      .char '.' :: (if fraction.isEmpty then [.char '0'] else fraction)

/-- The digits of a decimal without the zeros at its end. -/
def significantDigits (n : Nat) : List Letter :=
  ((decimalDigits n).reverse.dropWhile (· == .char '0')).reverse

/-- The written form of a double. -/
def write (layout : DoubleLayout) : Double → List Letter
  | .nan => layout.nan.toList
  | .infinite negative => (if negative then [.char '-'] else []) ++ layout.infinity.toList
  | .finite x =>
    (if x.negative then [.char '-'] else []) ++
      if x.significand = 0 then [.char '0', .char '.', .char '0']
      else
        let (n, exponent) := x.shortest
        layout.magnitude (significantDigits n) (exponent + Double.decimalLength n - 1)

end DoubleLayout

def Double.text (x : Double) : Text :=
  .ofList (DoubleLayout.plain.write x)

end QueryDesk
