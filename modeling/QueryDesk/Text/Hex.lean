import QueryDesk.Text.Basic

/-!
# Hexadecimal digits

Numbers are written with lower-case digits and read in either case. `digitValue?_digit` ties the
two directions together.
-/

namespace QueryDesk.Text.Hex

/-- The digit for a number below sixteen. -/
def digit (n : Nat) : Letter :=
  if n < 10 then .ofNat (0x30 + n) else .ofNat (0x57 + n)

/-- The number that a digit stands for. -/
def digitValue? (c : Letter) : Option Nat :=
  let n := c.toNat
  if 0x30 ≤ n && n ≤ 0x39 then some (n - 0x30)
  else if 0x61 ≤ n && n ≤ 0x66 then some (n - 0x57)
  else if 0x41 ≤ n && n ≤ 0x46 then some (n - 0x37)
  else none

/-- A digit reads back as its number. -/
theorem digitValue?_digit {n : Nat} (h : n < 16) : digitValue? (digit n) = some n := by
  have all : ∀ m : Fin 16, digitValue? (digit m.val) = some m.val := by decide
  exact all ⟨n, h⟩

/-- The last `width` digits of a number. -/
def digits (width n : Nat) : List Letter :=
  match width with
  | 0 => []
  | width + 1 => digits width (n / 16) ++ [digit (n % 16)]

/-- The number that a run of digits stands for, if all of them are digits. -/
def value? (s : List Letter) : Option Nat :=
  s.foldlM (fun n c => (digitValue? c).map (16 * n + ·)) 0

end QueryDesk.Text.Hex
