import Mathlib
import QueryDesk.Number.Double

/-!
# Which decimals are infinite

A decimal is read as the nearest double. It is infinite exactly from half a unit beyond the largest
double on (`Double.isFinite_ofDecimal_iff`), and it is never `nan` (`Double.ofDecimal_ne_nan`).

* `floorLog2_spec`: the power of two that a quotient is compared with is the right one.
* `roundHalfEven_lt_iff`: rounding reaches an even number from half a unit below it on, since the
  half goes up there. The largest significand is odd, so this is the case at the threshold.
* `Double.isFinite_ofRatio_iff`: a quotient is infinite from the threshold on.
-/

namespace QueryDesk

/-! ## The logarithm of a quotient -/

theorem cast_pow_toNat {b : Nat} {e : Int} (nonneg : 0 ≤ e) :
    ((Nat.pow b e.toNat : Nat) : ℚ) = (b : ℚ) ^ e := by
  obtain ⟨k, rfl⟩ := Int.eq_ofNat_of_zero_le nonneg
  simp

theorem cast_pow_toNat_neg {b : Nat} {e : Int} (negative : ¬ 0 ≤ e) :
    ((Nat.pow b (-e).toNat : Nat) : ℚ) = ((b : ℚ) ^ e)⁻¹ := by
  rw [cast_pow_toNat (by omega), zpow_neg]

/-- A quotient lies between a power of two and the next. -/
theorem floorLog2_spec {num den : Nat} (hnum : 0 < num) (hden : 0 < den) :
    (2 : ℚ) ^ floorLog2 num den ≤ num / den ∧
      (num : ℚ) / den < 2 ^ (floorLog2 num den + 1) := by
  have posDen : (0 : ℚ) < den := by exact_mod_cast hden
  have numLow : (2 : ℚ) ^ (num.log2 : ℤ) ≤ num := by
    exact_mod_cast Nat.log2_self_le (Nat.pos_iff_ne_zero.mp hnum)
  have numHigh : (num : ℚ) < 2 ^ ((num.log2 : ℤ) + 1) := by
    exact_mod_cast (Nat.lt_log2_self : num < 2 ^ (num.log2 + 1))
  have denLow : (2 : ℚ) ^ (den.log2 : ℤ) ≤ den := by
    exact_mod_cast Nat.log2_self_le (Nat.pos_iff_ne_zero.mp hden)
  have denHigh : (den : ℚ) < 2 ^ ((den.log2 : ℤ) + 1) := by
    exact_mod_cast (Nat.lt_log2_self : den < 2 ^ (den.log2 + 1))
  obtain ⟨guess, guessEq⟩ : ∃ guess : ℤ, guess = num.log2 - den.log2 := ⟨_, rfl⟩
  have low : (2 : ℚ) ^ (guess - 1) ≤ num / den := by
    rw [le_div_iff₀ posDen]
    calc (2 : ℚ) ^ (guess - 1) * den ≤ 2 ^ (guess - 1) * 2 ^ ((den.log2 : ℤ) + 1) := by gcongr
      _ = 2 ^ (num.log2 : ℤ) := by rw [← zpow_add₀ two_ne_zero]; congr 1; omega
      _ ≤ num := numLow
  have high : (num : ℚ) / den < 2 ^ (guess + 1) := by
    rw [div_lt_iff₀ posDen]
    calc (num : ℚ) < 2 ^ ((num.log2 : ℤ) + 1) := numHigh
      _ = 2 ^ (guess + 1) * 2 ^ (den.log2 : ℤ) := by
        rw [← zpow_add₀ two_ne_zero]; congr 1; omega
      _ ≤ 2 ^ (guess + 1) * den := by gcongr
  -- the guess is right or one too large, and a comparison of whole numbers tells which
  have reached : (if 0 ≤ guess then den * Nat.pow 2 guess.toNat ≤ num
      else den ≤ num * Nat.pow 2 (-guess).toNat) ↔ (2 : ℚ) ^ guess ≤ num / den := by
    rw [le_div_iff₀ posDen]
    split
    case isTrue nonneg =>
      rw [← Nat.cast_le (α := ℚ), Nat.cast_mul, cast_pow_toNat nonneg, mul_comm]
      rfl
    case isFalse negative =>
      rw [← Nat.cast_le (α := ℚ), Nat.cast_mul, cast_pow_toNat_neg negative, ← div_eq_mul_inv,
        le_div_iff₀ (by positivity), mul_comm]
      rfl
  unfold floorLog2
  simp only [← guessEq, reached]
  split
  case isTrue right => exact ⟨right, high⟩
  case isFalse tooLarge =>
    rw [sub_add_cancel]
    exact ⟨low, lt_of_not_ge tooLarge⟩

/-! ## Rounding a quotient -/

/-- Rounding stays below an even number as long as the quotient is less than half a unit from it. -/
theorem roundHalfEven_lt_iff {num den n : Nat} (hden : 0 < den) (even : n % 2 = 0) :
    roundHalfEven num den < n ↔ 2 * num + den < 2 * (n * den) := by
  have whole : num / den * den + num % den = num := Nat.div_add_mod' num den
  have small : num % den < den := Nat.mod_lt num hden
  obtain ⟨low, lowEq⟩ : ∃ low, low = num / den := ⟨_, rfl⟩
  obtain ⟨rest, restEq⟩ : ∃ rest, rest = num % den := ⟨_, rfl⟩
  simp only [roundHalfEven, ← lowEq, ← restEq] at *
  rcases Nat.lt_trichotomy (low + 1) n with below | same | above
  · have next : (low + 2) * den ≤ n * den := Nat.mul_le_mul_right den below
    rw [Nat.add_mul] at next
    split_ifs <;> omega
  · subst same
    rw [Nat.add_mul] at *
    split_ifs <;> omega
  · have next : n * den ≤ low * den := Nat.mul_le_mul_right den (by omega)
    split_ifs <;> omega

theorem le_roundHalfEven {num den n : Nat} (hden : 0 < den) (reached : n * den ≤ num) :
    n ≤ roundHalfEven num den := by
  have near := (two_mul_roundHalfEven_le num hden).2
  by_contra less
  have next : (roundHalfEven num den + 1) * den ≤ n * den := Nat.mul_le_mul_right den (by omega)
  rw [Nat.add_mul] at next
  omega

theorem roundHalfEven_le {num den n : Nat} (hden : 0 < den) (bounded : num ≤ n * den) :
    roundHalfEven num den ≤ n := by
  have near := (two_mul_roundHalfEven_le num hden).1
  by_contra more
  have next : (n + 1) * den ≤ roundHalfEven num den * den := Nat.mul_le_mul_right den (by omega)
  rw [Nat.add_mul] at next
  omega

namespace Double

/-! ## The significand of a quotient -/

/-- The whole number nearest to `num / den / 2 ^ exponent`, a half to the even one. -/
def significandAt (num den : Nat) (exponent : Int) : Nat :=
  if 0 ≤ exponent then roundHalfEven num (den * Nat.pow 2 exponent.toNat)
  else roundHalfEven (num * Nat.pow 2 (-exponent).toNat) den

section

variable {num den : Nat} {exponent : Int}

/-- The significand is a rounded quotient of whole numbers. -/
theorem exists_scaled (num : Nat) (hden : 0 < den) (exponent : Int) :
    ∃ num' den', 0 < den' ∧ significandAt num den exponent = roundHalfEven num' den' ∧
      (num' : ℚ) / den' = num / den / 2 ^ exponent := by
  rw [significandAt]
  split
  case isTrue nonneg =>
    refine ⟨num, den * Nat.pow 2 exponent.toNat, ?_, rfl, ?_⟩
    · exact Nat.mul_pos hden (Nat.pow_pos (by decide))
    · rw [Nat.cast_mul, cast_pow_toNat nonneg, div_div]
      rfl
  case isFalse negative =>
    refine ⟨num * Nat.pow 2 (-exponent).toNat, den, hden, rfl, ?_⟩
    rw [Nat.cast_mul, cast_pow_toNat_neg negative, ← div_eq_mul_inv, div_right_comm]
    rfl

theorem significandAt_lt_iff (hden : 0 < den) {n : Nat} (even : n % 2 = 0) :
    significandAt num den exponent < n ↔ (num : ℚ) / den < (n - 1 / 2) * 2 ^ exponent := by
  obtain ⟨num', den', posDen, same, scaled⟩ := exists_scaled num hden exponent
  have posDen' : (0 : ℚ) < den' := by exact_mod_cast posDen
  rw [same, roundHalfEven_lt_iff posDen even, ← div_lt_iff₀ (by positivity), ← scaled,
    div_lt_iff₀ posDen', ← Nat.cast_lt (α := ℚ)]
  push_cast
  constructor
  · intro less
    linarith
  · intro less
    linarith

theorem le_significandAt (hden : 0 < den) {n : Nat} (reached : (n : ℚ) * 2 ^ exponent ≤ num / den) :
    n ≤ significandAt num den exponent := by
  obtain ⟨num', den', posDen, same, scaled⟩ := exists_scaled num hden exponent
  have posDen' : (0 : ℚ) < den' := by exact_mod_cast posDen
  rw [same]
  apply le_roundHalfEven posDen
  rw [← le_div_iff₀ (by positivity), ← scaled, le_div_iff₀ posDen'] at reached
  exact_mod_cast reached

theorem significandAt_le (hden : 0 < den) {n : Nat} (bounded : (num : ℚ) / den ≤ n * 2 ^ exponent) :
    significandAt num den exponent ≤ n := by
  obtain ⟨num', den', posDen, same, scaled⟩ := exists_scaled num hden exponent
  have posDen' : (0 : ℚ) < den' := by exact_mod_cast posDen
  rw [same]
  apply roundHalfEven_le posDen
  rw [← div_le_iff₀ (by positivity), ← scaled, div_le_iff₀ posDen'] at bounded
  exact_mod_cast bounded

end

/-! ## Overflow -/

/-- Half a unit beyond the largest double. -/
def overflowThreshold : ℚ :=
  2 ^ 1024 - 2 ^ 970

theorem le_overflowThreshold : 2 ^ 1023 ≤ overflowThreshold := by
  have unit : (2 : ℚ) ^ 970 ≤ 2 ^ 1023 := pow_le_pow_right₀ one_le_two (by decide)
  rw [overflowThreshold, pow_succ 2 1023, mul_two]
  exact le_sub_right_of_add_le (add_le_add_right unit _)

theorem overflowThreshold_le : overflowThreshold ≤ 2 ^ 1024 := by
  rw [overflowThreshold]
  exact sub_le_self _ (by positivity)

theorem one_lt_overflowThreshold : 1 < overflowThreshold :=
  lt_of_lt_of_le (one_lt_pow₀ one_lt_two (by decide)) le_overflowThreshold

theorem isFinite_ofScaled (negative : Bool) (significand : Nat) (exponent : Int) :
    (ofScaled negative significand exponent).isFinite = true ↔ Canonical significand exponent := by
  rw [ofScaled]
  split
  case isTrue canonical => exact iff_of_true rfl canonical
  case isFalse other => exact iff_of_false Bool.false_ne_true other

/-- The exponent of the double nearest to a quotient. -/
def exponentOf (num den : Nat) : Int :=
  max (floorLog2 num den - 52) minExponent

theorem ofRatio_eq (negative : Bool) {num : Nat} (den : Nat) (hnum : 0 < num) :
    ofRatio negative num den =
      if significandAt num den (exponentOf num den) = Nat.pow 2 53 then
        ofScaled negative (Nat.pow 2 52) (exponentOf num den + 1)
      else ofScaled negative (significandAt num den (exponentOf num den)) (exponentOf num den) := by
  rw [ofRatio, if_neg (Nat.pos_iff_ne_zero.mp hnum)]
  rfl

section

variable {num den : Nat}

/-- The significand has 53 bits, or has just been rounded up to one more. -/
theorem significandAt_exponentOf_le (hnum : 0 < num) (hden : 0 < den) :
    significandAt num den (exponentOf num den) ≤ Nat.pow 2 53 := by
  have high := (floorLog2_spec hnum hden).2
  have least : floorLog2 num den - 52 ≤ exponentOf num den := le_max_left _ _
  apply significandAt_le hden
  calc (num : ℚ) / den ≤ 2 ^ (floorLog2 num den + 1) := high.le
    _ ≤ 2 ^ (53 + exponentOf num den) := zpow_le_zpow_right₀ one_le_two (by omega)
    _ = (Nat.pow 2 53 : Nat) * 2 ^ exponentOf num den := by
      rw [zpow_add₀ two_ne_zero]
      norm_num

/-- Above the least exponent the significand has no fewer bits. -/
theorem le_significandAt_exponentOf (hnum : 0 < num) (hden : 0 < den)
    (normal : exponentOf num den = floorLog2 num den - 52) :
    Nat.pow 2 52 ≤ significandAt num den (exponentOf num den) := by
  have low := (floorLog2_spec hnum hden).1
  apply le_significandAt hden
  calc ((Nat.pow 2 52 : Nat) : ℚ) * 2 ^ exponentOf num den
      = 2 ^ (52 + exponentOf num den) := by
        rw [zpow_add₀ two_ne_zero]
        norm_num
    _ = 2 ^ floorLog2 num den := by rw [normal]; congr 1; omega
    _ ≤ num / den := low

theorem canonical_significandAt (hnum : 0 < num) (hden : 0 < den)
    (bounded : exponentOf num den ≤ maxExponent)
    (less : significandAt num den (exponentOf num den) < Nat.pow 2 53) :
    Canonical (significandAt num den (exponentOf num den)) (exponentOf num den) := by
  refine ⟨less, le_max_right _ _, bounded, ?_⟩
  rcases max_choice (floorLog2 num den - 52) minExponent with normal | least
  · exact .inl (le_significandAt_exponentOf hnum hden normal)
  · exact .inr least

/-- A quotient is finite if its exponent is small enough for its significand. -/
theorem isFinite_ofRatio_iff_exponentOf (negative : Bool) (hnum : 0 < num) (hden : 0 < den) :
    (ofRatio negative num den).isFinite = true ↔
      exponentOf num den < maxExponent ∨ exponentOf num den = maxExponent ∧
        significandAt num den (exponentOf num den) < Nat.pow 2 53 := by
  have bounded := significandAt_exponentOf_le hnum hden
  have least : minExponent ≤ exponentOf num den := le_max_right _ _
  rw [ofRatio_eq negative den hnum]
  split
  case isTrue carried =>
    rw [isFinite_ofScaled, carried]
    constructor
    · intro canonical
      have := canonical.2.2.1
      exact .inl (by omega)
    · rintro (smaller | ⟨-, less⟩)
      · exact ⟨by decide, by omega, by omega, .inl (le_refl _)⟩
      · exact absurd less (lt_irrefl _)
  case isFalse other =>
    have less := lt_of_le_of_ne bounded other
    rw [isFinite_ofScaled]
    constructor
    · intro canonical
      rcases lt_or_eq_of_le canonical.2.2.1 with smaller | same
      · exact .inl smaller
      · exact .inr ⟨same, less⟩
    · rintro (smaller | ⟨same, -⟩)
      · exact canonical_significandAt hnum hden smaller.le less
      · exact canonical_significandAt hnum hden same.le less

end

/-- A quotient is finite exactly below the threshold. -/
theorem isFinite_ofRatio_iff (negative : Bool) (num : Nat) {den : Nat} (hden : 0 < den) :
    (ofRatio negative num den).isFinite = true ↔ (num : ℚ) / den < overflowThreshold := by
  rcases Nat.eq_zero_or_pos num with rfl | hnum
  · refine iff_of_true rfl ?_
    rw [Nat.cast_zero, zero_div]
    exact zero_lt_one.trans one_lt_overflowThreshold
  obtain ⟨low, high⟩ := floorLog2_spec hnum hden
  rw [isFinite_ofRatio_iff_exponentOf negative hnum hden]
  have exponent : exponentOf num den = max (floorLog2 num den - 52) minExponent := rfl
  unfold minExponent at exponent
  unfold maxExponent
  rcases lt_trichotomy (floorLog2 num den) 1023 with below | same | above
  · -- the next power of two is below the threshold
    refine iff_of_true (.inl (by omega)) ?_
    calc (num : ℚ) / den < 2 ^ (floorLog2 num den + 1) := high
      _ ≤ 2 ^ (1023 : ℤ) := zpow_le_zpow_right₀ one_le_two (by omega)
      _ = 2 ^ 1023 := zpow_ofNat 2 1023
      _ ≤ overflowThreshold := le_overflowThreshold
  · -- the largest exponent: what counts is whether the significand carries
    have largest : exponentOf num den = 971 := by omega
    rw [largest, significandAt_lt_iff hden (by decide)]
    have threshold : (((Nat.pow 2 53 : Nat) : ℚ) - 1 / 2) * 2 ^ (971 : ℤ) = overflowThreshold := by
      have split : (2 : ℚ) ^ 1024 = 2 ^ 53 * 2 ^ 971 := by rw [← pow_add]
      have half : (2 : ℚ) ^ 971 = 2 ^ 970 * 2 := pow_succ 2 970
      rw [overflowThreshold, zpow_ofNat, split, half]
      generalize (2 : ℚ) ^ 970 = unit
      push_cast
      ring
    rw [threshold]
    simp
  · have reached : overflowThreshold ≤ (num : ℚ) / den := by
      calc overflowThreshold ≤ 2 ^ 1024 := overflowThreshold_le
        _ = 2 ^ (1024 : ℤ) := (zpow_ofNat 2 1024).symm
        _ ≤ 2 ^ floorLog2 num den := zpow_le_zpow_right₀ one_le_two (by omega)
        _ ≤ num / den := low
    refine iff_of_false ?_ (not_lt_of_ge reached)
    rintro (smaller | ⟨same, -⟩) <;> omega

/-! ## Decimals -/

/-- A number lies between the powers of ten that its digits give it. -/
theorem pow_decimalLength {n : Nat} (hn : 0 < n) :
    (10 : ℚ) ^ ((decimalLength n : ℤ) - 1) ≤ n ∧ (n : ℚ) < 10 ^ (decimalLength n : ℤ) := by
  have some : 0 < decimalLength n := Nat.length_toDigits_pos
  have high : n < 10 ^ decimalLength n :=
    (Nat.length_toDigits_le_iff (by decide) some).mp (le_refl _)
  have low : 10 ^ (decimalLength n - 1) ≤ n := by
    rcases Nat.eq_zero_or_pos (decimalLength n - 1) with single | several
    · rw [single]
      exact hn
    · by_contra fewer
      have := (Nat.length_toDigits_le_iff (b := 10) (by decide) several).mpr (not_le.mp fewer)
      unfold decimalLength at this several
      omega
  refine ⟨?_, by exact_mod_cast high⟩
  have last : (decimalLength n : ℤ) - 1 = ((decimalLength n - 1 : Nat) : ℤ) := by omega
  rw [last, zpow_natCast]
  exact_mod_cast low

/-- A decimal is finite exactly below the threshold. -/
theorem isFinite_ofDecimal_iff (negative : Bool) (digits : Nat) (exponent : Int) :
    (ofDecimal negative digits exponent).isFinite = true ↔
      (digits : ℚ) * 10 ^ exponent < overflowThreshold := by
  rw [ofDecimal]
  rcases Nat.eq_zero_or_pos digits with rfl | positive
  · refine iff_of_true rfl ?_
    rw [Nat.cast_zero, zero_mul]
    exact zero_lt_one.trans one_lt_overflowThreshold
  obtain ⟨low, high⟩ := pow_decimalLength positive
  simp only [Nat.pos_iff_ne_zero.mp positive, if_false]
  split_ifs with large small nonneg
  · -- too large for any power of ten to be computed
    refine iff_of_false Bool.false_ne_true (not_lt_of_ge ?_)
    calc overflowThreshold ≤ 2 ^ 1024 := overflowThreshold_le
      _ ≤ 2 ^ (3 * 400) := pow_le_pow_right₀ one_le_two (by decide)
      _ = (2 ^ 3) ^ 400 := pow_mul 2 3 400
      _ ≤ 10 ^ 400 := pow_le_pow_left₀ (by norm_num) (by norm_num) 400
      _ = 10 ^ (400 : ℤ) := (zpow_ofNat 10 400).symm
      _ ≤ 10 ^ ((decimalLength digits : ℤ) - 1 + exponent) :=
        zpow_le_zpow_right₀ (by norm_num) (by omega)
      _ = 10 ^ ((decimalLength digits : ℤ) - 1) * 10 ^ exponent := zpow_add₀ (by norm_num) _ _
      _ ≤ digits * 10 ^ exponent := by gcongr
  · refine iff_of_true rfl ?_
    calc (digits : ℚ) * 10 ^ exponent
        ≤ 10 ^ (decimalLength digits : ℤ) * 10 ^ exponent := by gcongr
      _ = 10 ^ ((decimalLength digits : ℤ) + exponent) := (zpow_add₀ (by norm_num) _ _).symm
      _ ≤ 10 ^ (0 : ℤ) := zpow_le_zpow_right₀ (by norm_num) (by omega)
      _ < overflowThreshold := by
        rw [zpow_zero]
        exact one_lt_overflowThreshold
  · rw [isFinite_ofRatio_iff negative _ Nat.one_pos, Nat.cast_mul, cast_pow_toNat nonneg,
      Nat.cast_one, div_one]
    rfl
  · have power : 0 < Nat.pow 10 (-exponent).toNat := Nat.pow_pos (by decide)
    rw [isFinite_ofRatio_iff negative _ power, cast_pow_toNat_neg nonneg, div_inv_eq_mul]
    rfl

/-- Reading a decimal never gives what is not a number. -/
theorem ofDecimal_ne_nan (negative : Bool) (digits : Nat) (exponent : Int) :
    ofDecimal negative digits exponent ≠ .nan := by
  have scaled : ∀ significand exponent, ofScaled negative significand exponent ≠ .nan := by
    intro significand exponent
    rw [ofScaled]
    split <;> exact nofun
  have ratio : ∀ num den, ofRatio negative num den ≠ .nan := by
    intro num den
    rcases Nat.eq_zero_or_pos num with rfl | hnum
    · exact nofun
    · rw [ofRatio_eq negative den hnum]
      split <;> exact scaled _ _
  dsimp only [ofDecimal]
  split_ifs
  · exact nofun
  · exact nofun
  · exact nofun
  · exact ratio _ _
  · exact ratio _ _

end Double

end QueryDesk
