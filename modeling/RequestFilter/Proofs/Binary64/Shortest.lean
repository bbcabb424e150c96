import RequestFilter.Binary64.Shortest
import RequestFilter.Proofs.Binary64.Nearest

/-!
# Shortest digits

The shortest digits of a double are a number that becomes this double, whichever way
ties between two of them are settled: the grids that are searched end with one that is
finer than what the double attracts.
-/

namespace RequestFilter

/-- The number that a decimal stands for. -/
def Decimal.toRat (d : Decimal) : ℚ :=
  d.digits * 10 ^ d.power

/-- Zeros at the end of the digits go into the power. -/
theorem Decimal.toRat_trim (fuel : ℕ) (d : Decimal) : (d.trim fuel).toRat = d.toRat := by
  induction fuel generalizing d with
  | zero => rfl
  | succ fuel ih =>
      rw [trim]
      split
      next h =>
        rw [ih, toRat, toRat, zpow_add_one₀ (by norm_num)]
        have hdigits : (d.digits : ℚ) = (d.digits / 10 : ℕ) * 10 := by
          exact_mod_cast (Nat.div_mul_cancel (Nat.dvd_of_mod_eq_zero h.1)).symm
        rw [hdigits]
        ring
      next => rfl

namespace Finite64

namespace Interval

variable {i : Interval} {tie : TieRule}

theorem holds_of_lt {num den : ℕ} (hlow : i.low * den < num * i.unit)
    (hhigh : num * i.unit < i.high * den) : i.holds num den = true := by
  unfold holds
  split
  · simp [hlow.le, hhigh.le]
  · simp [hlow, hhigh]

/-- What is taken from a grid lies in the interval. -/
theorem holds_of_onGrid? {power : ℤ} {digits : ℕ} (h : i.onGrid? tie power = some digits) :
    i.holds (digits * Nat.pow 10 power.toNat) (Nat.pow 10 (-power).toNat) = true := by
  unfold onGrid? at h
  simp only at h
  split at h
  next hfit =>
    rw [Bool.and_eq_true] at hfit
    obtain ⟨hlow, hhigh⟩ := hfit
    split_ifs at h
    · cases h
      exact hlow
    · cases h
      exact hhigh
    · cases tie with
      | away =>
          cases h
          exact hhigh
      | even =>
          cases h
          rcases Nat.mod_two_eq_zero_or_one
            (i.value * Nat.pow 10 (-power).toNat / (i.unit * Nat.pow 10 power.toNat)) with hmod | hmod
          · rwa [hmod]
          · rwa [hmod]
  next =>
    split_ifs at h with hlow hhigh
    · cases h
      exact hlow
    · cases h
      exact hhigh

/-- The point of a grid below the value is less than one step away from it. -/
theorem holds_below {up down : ℕ} (hunit : 0 < i.unit) (hup : 0 < up)
    (hlow : i.low * down + i.unit * up < i.value * down)
    (hhigh : i.value * down < i.high * down) :
    i.holds (i.value * down / (i.unit * up) * up) down = true := by
  have hrest := Nat.mod_lt (i.value * down) (Nat.mul_pos hunit hup)
  have hsum := Nat.div_add_mod (i.value * down) (i.unit * up)
  have hpoint : i.value * down / (i.unit * up) * up * i.unit =
      i.unit * up * (i.value * down / (i.unit * up)) := by ring
  refine holds_of_lt ?_ ?_
  · rw [hpoint]
    omega
  · rw [hpoint]
    omega

/-- A grid whose point below the value lies in the interval has a point to be taken. -/
theorem isSome_onGrid?_of_holds {power : ℤ}
    (h : i.holds (i.value * Nat.pow 10 (-power).toNat / (i.unit * Nat.pow 10 power.toNat) *
      Nat.pow 10 power.toNat) (Nat.pow 10 (-power).toNat) = true) :
    (i.onGrid? tie power).isSome := by
  unfold onGrid?
  simp only [h, Bool.true_and, if_true]
  split_ifs
  · rfl
  · rfl
  · cases tie <;> rfl
  · rfl

/-- If one of the grids that are searched has a point, the first one that has is taken. -/
theorem onGrid?_firstGrid {fuel k : ℕ} {power : ℤ} (hk : k < fuel)
    (h : (i.onGrid? tie (power - k)).isSome) :
    i.onGrid? tie (i.firstGrid tie fuel power).power =
      some (i.firstGrid tie fuel power).digits := by
  induction fuel generalizing k power with
  | zero => cases hk
  | succ fuel ih =>
      rw [firstGrid]
      cases hgrid : i.onGrid? tie power with
      | some digits => exact hgrid
      | none =>
          cases k with
          | zero =>
              rw [Nat.cast_zero, sub_zero, hgrid] at h
              cases h
          | succ k =>
              refine ih (Nat.lt_of_succ_lt_succ hk) ?_
              rwa [show power - 1 - k = power - (k + 1 : ℕ) by push_cast; ring]

end Interval

/-- One of the two powers is one, and their quotient is the power with the sign of its exponent. -/
theorem pow_toNat_div (base : ℕ) (exponent : ℤ) :
    (Nat.pow base exponent.toNat / Nat.pow base (-exponent).toNat : ℚ) = base ^ exponent := by
  rcases le_total 0 exponent with h | h
  · obtain ⟨k, rfl⟩ := Int.eq_ofNat_of_zero_le h
    simp
  · obtain ⟨k, rfl⟩ : ∃ k : ℕ, exponent = -k := ⟨(-exponent).toNat, by omega⟩
    simp

section Attracted

variable {x : Finite64}

/-- The interval of a double, over its factor. -/
theorem interval_spec (hsignificand : x.significand ≠ 0) :
    0 < x.interval.unit ∧
      (x.interval.low / x.interval.unit : ℚ) = (x.significand - x.reachBelow) * 2 ^ x.exponent ∧
      (x.interval.value / x.interval.unit : ℚ) = x.significand * 2 ^ x.exponent ∧
      (x.interval.high / x.interval.unit : ℚ) = (x.significand + 1 / 2) * 2 ^ x.exponent := by
  have hscale := pow_toNat_div 2 (x.exponent - 2)
  have hquarter : (2 : ℚ) ^ (x.exponent - 2) = 2 ^ x.exponent / 4 := by
    rw [zpow_sub₀ (by norm_num)]
    norm_num
  rw [Nat.cast_ofNat, hquarter] at hscale
  have hlow : ((4 * x.significand - (if x.significand = leadingBit64 ∧ -1074 < x.exponent then 1
      else 2) : ℕ) : ℚ) = 4 * (x.significand - x.reachBelow) := by
    unfold reachBelow
    split
    · rw [Nat.cast_sub (by omega)]
      push_cast
      ring
    · rw [Nat.cast_sub (by omega)]
      push_cast
      ring
  refine ⟨Nat.pow_pos (by decide), ?_, ?_, ?_⟩
  · simp only [interval]
    rw [Nat.cast_mul, hlow, mul_div_assoc, hscale]
    ring
  · simp only [interval]
    rw [Nat.cast_mul, mul_div_assoc, hscale]
    push_cast
    ring
  · simp only [interval]
    rw [Nat.cast_mul, mul_div_assoc, hscale]
    push_cast
    ring

theorem attracts_of_holds (hsignificand : x.significand ≠ 0) {num den : ℕ} (hden : 0 < den)
    (h : x.interval.holds num den = true) : x.Attracts (num / den) := by
  obtain ⟨hunit, hlow, -, hhigh⟩ := interval_spec hsignificand
  have hunitPos : (0 : ℚ) < x.interval.unit := by exact_mod_cast hunit
  have hdenPos : (0 : ℚ) < den := by exact_mod_cast hden
  have hclosed : x.interval.closed = decide (x.significand % 2 = 0) := rfl
  unfold Interval.holds at h
  rw [hclosed] at h
  by_cases heven : x.significand % 2 = 0
  · simp only [heven, decide_true, if_true, Bool.and_eq_true, decide_eq_true_eq] at h
    refine ⟨?_, ?_, fun _ => heven, fun _ => heven⟩
    · rw [← hlow, div_le_div_iff₀ hunitPos hdenPos]
      exact_mod_cast h.1
    · rw [← hhigh, div_le_div_iff₀ hdenPos hunitPos]
      exact_mod_cast h.2
  · simp only [heven, decide_false, Bool.false_eq_true, if_false, Bool.and_eq_true,
      decide_eq_true_eq] at h
    have habove : (x.significand - x.reachBelow) * 2 ^ x.exponent < (num / den : ℚ) := by
      rw [← hlow, div_lt_div_iff₀ hunitPos hdenPos]
      exact_mod_cast h.1
    have hunder : (num / den : ℚ) < (x.significand + 1 / 2) * 2 ^ x.exponent := by
      rw [← hhigh, div_lt_div_iff₀ hdenPos hunitPos]
      exact_mod_cast h.2
    exact ⟨habove.le, hunder.le, fun heq => absurd heq habove.ne',
      fun heq => absurd heq hunder.ne⟩

theorem attracts_of_onGrid? (hsignificand : x.significand ≠ 0) {tie : TieRule} {power : ℤ}
    {digits : ℕ} (h : x.interval.onGrid? tie power = some digits) :
    x.Attracts (digits * 10 ^ power) := by
  have hdown : 0 < Nat.pow 10 (-power).toNat := Nat.pow_pos (by decide)
  have hattracts := attracts_of_holds hsignificand hdown (Interval.holds_of_onGrid? h)
  have hpower := pow_toNat_div 10 power
  rw [Nat.cast_ofNat] at hpower
  rwa [Nat.cast_mul, mul_div_assoc, hpower] at hattracts

/-- A grid that is finer than the reach of a double has a point next to the double. -/
theorem isSome_onGrid? (hsignificand : x.significand ≠ 0) (tie : TieRule) {power : ℤ}
    (hfine : (10 : ℚ) ^ power < x.reachBelow * 2 ^ x.exponent) :
    (x.interval.onGrid? tie power).isSome := by
  obtain ⟨hunit, hlow, hvalue, hhigh⟩ := interval_spec hsignificand
  have hpower := pow_toNat_div 10 power
  have hup : 0 < Nat.pow 10 power.toNat := Nat.pow_pos (by decide)
  have hdown : 0 < Nat.pow 10 (-power).toNat := Nat.pow_pos (by decide)
  apply Interval.isSome_onGrid?_of_holds
  generalize Nat.pow 10 power.toNat = up at hpower hup ⊢
  generalize Nat.pow 10 (-power).toNat = down at hpower hdown ⊢
  generalize x.interval = i at hunit hlow hvalue hhigh ⊢
  have hunitPos : (0 : ℚ) < i.unit := by exact_mod_cast hunit
  have hdownPos : (0 : ℚ) < down := by exact_mod_cast hdown
  have hplace : (0 : ℚ) < 2 ^ x.exponent := by positivity
  apply Interval.holds_below hunit hup
  · have hless : (i.low / i.unit + up / down : ℚ) < i.value / i.unit := by
      rw [hlow, hpower, hvalue, Nat.cast_ofNat]
      linarith
    have hcommon : (i.value / i.unit : ℚ) = i.value * down / (i.unit * down) :=
      (mul_div_mul_right _ _ hdownPos.ne').symm
    rw [div_add_div _ _ hunitPos.ne' hdownPos.ne', hcommon,
      div_lt_div_iff_of_pos_right (by positivity)] at hless
    exact_mod_cast hless
  · have hless : (i.value / i.unit : ℚ) < i.high / i.unit := by
      rw [hvalue, hhigh]
      linarith
    rw [div_lt_div_iff_of_pos_right hunitPos] at hless
    exact Nat.mul_lt_mul_of_pos_right (by exact_mod_cast hless) hdown

/-- The last grid that is searched is fine enough, since a significand has 53 bits. -/
theorem zpow_powerAbove_lt (hsignificand : x.significand ≠ 0) :
    (10 : ℚ) ^ (powerAbove x.interval.value x.interval.unit - 23) <
      x.reachBelow * 2 ^ x.exponent := by
  obtain ⟨hunit, -, hvalue, -⟩ := interval_spec hsignificand
  have hplace : (0 : ℚ) < 2 ^ x.exponent := by positivity
  have hvalueNe : x.interval.value ≠ 0 := by
    intro hzero
    rw [hzero, Nat.cast_zero, zero_div, eq_comm, mul_eq_zero] at hvalue
    exact hvalue.elim (by exact_mod_cast hsignificand) hplace.ne'
  have hvalueLow := (Binary64.bounds_length_toDigits hvalueNe).1
  have hunitHigh := (Binary64.bounds_length_toDigits hunit.ne').2
  have hvalueLength : 0 < (Nat.toDigits 10 x.interval.value).length := Nat.length_toDigits_pos
  unfold powerAbove
  generalize (Nat.toDigits 10 x.interval.value).length = valueLength at hvalueLow hvalueLength ⊢
  generalize (Nat.toDigits 10 x.interval.unit).length = unitLength at hunitHigh ⊢
  have hunitPos : (0 : ℚ) < x.interval.unit := by exact_mod_cast hunit
  have hlimit : (x.significand : ℚ) < 9007199254740992 := by exact_mod_cast x.canonical.1
  have hreach := x.reachBelow_bounds.1
  have hpowers : (10 : ℚ) ^ ((valueLength : ℤ) - 1) = 10 ^ ((valueLength : ℤ) - unitLength + 1 - 23) *
      10 ^ 21 * 10 ^ unitLength := by
    rw [← zpow_natCast, ← zpow_natCast, ← zpow_add₀ (by norm_num), ← zpow_add₀ (by norm_num)]
    congr 1
    push_cast
    ring
  have hless : (10 : ℚ) ^ ((valueLength : ℤ) - unitLength + 1 - 23) * 10 ^ 21 <
      x.significand * 2 ^ x.exponent := by
    rw [← hvalue, lt_div_iff₀ hunitPos]
    calc (10 : ℚ) ^ ((valueLength : ℤ) - unitLength + 1 - 23) * 10 ^ 21 * x.interval.unit
      _ < 10 ^ ((valueLength : ℤ) - unitLength + 1 - 23) * 10 ^ 21 * 10 ^ unitLength := by
        gcongr
        exact_mod_cast hunitHigh
      _ = 10 ^ ((valueLength : ℤ) - 1) := hpowers.symm
      _ = 10 ^ (valueLength - 1) := by
        rw [← zpow_natCast, Nat.cast_sub hvalueLength, Nat.cast_one]
      _ ≤ x.interval.value := by exact_mod_cast hvalueLow
  nlinarith

/-- A double attracts the number that its shortest digits stand for. -/
theorem attracts_shortest (hsignificand : x.significand ≠ 0) (tie : TieRule) :
    x.Attracts (x.shortest tie).toRat := by
  have hzero : x.isZero = false := by simpa [isZero] using hsignificand
  have hgrid := Interval.onGrid?_firstGrid (by decide : 23 < 24)
    (isSome_onGrid? hsignificand tie (zpow_powerAbove_lt hsignificand))
  unfold shortest
  rw [hzero, if_neg Bool.false_ne_true, Decimal.toRat_trim]
  exact attracts_of_onGrid? hsignificand hgrid

end Attracted

end Finite64

end RequestFilter
