import QueryDesk.Text.Basic

/-!
# Whole numbers in digits

A whole number of any size can be held, but it is read from decimal digits and written in them only
if there are at most `digitLimit` of them. A sign does not count as a digit.
-/

namespace QueryDesk

/-- A number in decimal digits. -/
def decimalDigits (n : Nat) : List Letter :=
  (Nat.toDigits 10 n).map .char

/-- Whole numbers are read and written with at most this many digits. -/
def digitLimit : Nat := 4300

/-- Whether a whole number has few enough digits to be written. -/
def isShort (n : Int) : Bool :=
  (decimalDigits n.natAbs).length ≤ digitLimit

theorem isShort_iff {n : Int} :
    isShort n = true ↔ (decimalDigits n.natAbs).length ≤ digitLimit :=
  decide_eq_true_iff

/-- A whole number in decimal digits, unless there are too many. -/
def wholeText? (n : Int) : Option Text :=
  if isShort n then some (toString n) else none

/-- What is said about a whole number with too many digits; `detail` may say how many. -/
def tooManyDigitsMessage (detail : String) : String :=
  "Exceeds the limit (4300 digits) for integer string conversion" ++ detail ++
    "; use sys.set_int_max_str_digits() to increase the limit"

end QueryDesk
