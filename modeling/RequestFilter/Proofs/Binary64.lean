import Mathlib.Algebra.Order.Field.Power
import Mathlib.Algebra.Order.Field.Rat
import Mathlib.Data.Nat.Digits.Defs
import Mathlib.Tactic.Linarith
import Mathlib.Tactic.NormNum
import Mathlib.Tactic.Positivity
import Mathlib.Tactic.Ring
import RequestFilter.Binary64

/-!
# Doubles as numbers

A finite double stands for a rational number. The integers that need 64 bits without
a sign become the double that is nearest to them among all doubles, and of two that
are equally near the one with the even significand.
-/

namespace RequestFilter

namespace Finite64

/-- The number that a finite double stands for. -/
def toRat (x : Finite64) : ℚ :=
  (if x.negative then -1 else 1) * (x.significand * 2 ^ x.exponent)

/-- No double is nearer to the number, and if another one is as near, the significand is even. -/
structure IsNearest (x : Finite64) (number : ℚ) : Prop where
  closest : ∀ y : Finite64, |x.toRat - number| ≤ |y.toRat - number|
  even_of_tie : ∀ y : Finite64, |y.toRat - number| = |x.toRat - number| →
    y.toRat = x.toRat ∨ x.significand % 2 = 0

theorem abs_toRat (x : Finite64) : |x.toRat| = x.significand * 2 ^ x.exponent := by
  have hsize : (0 : ℚ) ≤ x.significand * 2 ^ x.exponent := by positivity
  unfold toRat
  split
  · rw [neg_one_mul, abs_neg, abs_of_nonneg hsize]
  · rw [one_mul, abs_of_nonneg hsize]

/-- A double that is not below `2 ^ 63` in size counts units of `2 ^ 11`. -/
theorem abs_toRat_lt_or_eq_mul (x : Finite64) :
    |x.toRat| < 9223372036854775808 ∨ ∃ units : ℤ, x.toRat = units * 2048 := by
  obtain ⟨negative, significand, exponent, hcanonical⟩ := x
  rcases le_or_gt exponent 10 with hsmall | hlarge
  · left
    rw [abs_toRat]
    have hsignificand : (significand : ℚ) < 9007199254740992 := by exact_mod_cast hcanonical.1
    have hpower : (2 : ℚ) ^ exponent ≤ 2 ^ (10 : ℤ) :=
      zpow_le_zpow_right₀ (by norm_num) hsmall
    have hten : (2 : ℚ) ^ (10 : ℤ) = 1024 := by norm_num
    have hpositive : (0 : ℚ) < 2 ^ exponent := by positivity
    calc (significand : ℚ) * 2 ^ exponent
      _ < 9007199254740992 * 2 ^ exponent := by gcongr
      _ ≤ 9007199254740992 * 1024 := by rw [← hten]; gcongr
      _ = 9223372036854775808 := by norm_num
  · right
    obtain ⟨extra, rfl⟩ : ∃ extra : ℕ, exponent = 11 + extra :=
      ⟨(exponent - 11).toNat, by omega⟩
    refine ⟨(if negative then -1 else 1) * (significand * 2 ^ extra), ?_⟩
    have hpower : (2 : ℚ) ^ (11 + (extra : ℤ)) = 2048 * 2 ^ extra := by
      rw [zpow_add₀ (by norm_num), zpow_natCast]
      norm_num
    unfold toRat
    push_cast
    rw [hpower]
    cases negative <;> norm_num <;> ring

end Finite64

namespace Binary64

section Rounding

variable {den : ℕ}

theorem roundHalfEven_bounds (num den : ℕ) :
    num / den ≤ roundHalfEven num den ∧ roundHalfEven num den ≤ num / den + 1 := by
  unfold roundHalfEven
  simp only
  split
  · omega
  · split <;> omega

/-- The rounded quotient is at most half a unit off, and even if it is half a unit off. -/
theorem two_mul_abs_roundHalfEven_sub (num : ℕ) (hden : 0 < den) :
    2 * |(roundHalfEven num den * den - num : ℤ)| ≤ den ∧
      (2 * |(roundHalfEven num den * den - num : ℤ)| = den → roundHalfEven num den % 2 = 0) := by
  have hnum : (num : ℤ) = den * (num / den : ℕ) + (num % den : ℕ) := by
    exact_mod_cast (Nat.div_add_mod num den).symm
  have hrest : num % den < den := Nat.mod_lt num hden
  unfold roundHalfEven
  simp only
  split
  next hless =>
    have hoff : ((num / den : ℕ) * den - num : ℤ) = -(num % den : ℕ) := by rw [hnum]; ring
    rw [hoff, abs_neg, Nat.abs_cast]
    omega
  split
  next hmore =>
    have hoff : ((num / den + 1 : ℕ) * den - num : ℤ) = (den - num % den : ℕ) := by
      rw [Nat.cast_sub hrest.le, hnum]; push_cast; ring
    rw [hoff, Nat.abs_cast]
    omega
  next hhalf =>
    -- both neighbours are as near, and the even one of them is taken
    have htwice : 2 * (num % den) = den := by omega
    rcases Nat.mod_two_eq_zero_or_one (num / den) with heven | hodd
    · have hoff : ((num / den + num / den % 2 : ℕ) * den - num : ℤ) = -(num % den : ℕ) := by
        rw [heven, hnum]; push_cast; ring
      rw [hoff, abs_neg, Nat.abs_cast]
      omega
    · have hoff : ((num / den + num / den % 2 : ℕ) * den - num : ℤ) = (den - num % den : ℕ) := by
        rw [hodd, Nat.cast_sub hrest.le, hnum]; push_cast; ring
      rw [hoff, Nat.abs_cast]
      omega

/-- Among the multiples of the denominator the rounded quotient gives the nearest one. -/
theorem abs_roundHalfEven_sub_le (num : ℕ) (hden : 0 < den) (units : ℤ) :
    |(roundHalfEven num den * den - num : ℤ)| ≤ |units * den - num| ∧
      (|units * den - num| = |(roundHalfEven num den * den - num : ℤ)| →
        units = roundHalfEven num den ∨ roundHalfEven num den % 2 = 0) := by
  obtain ⟨hhalf, htie⟩ := two_mul_abs_roundHalfEven_sub num hden
  by_cases hsame : units = roundHalfEven num den
  · rw [hsame]
    exact ⟨le_rfl, fun _ => .inl rfl⟩
  · -- two different multiples are at least the denominator apart
    have hapart : (den : ℤ) ≤ |units * den - num| + |(roundHalfEven num den * den - num : ℤ)| :=
      calc (den : ℤ)
        _ = 1 * |(den : ℤ)| := by rw [one_mul, Nat.abs_cast]
        _ ≤ |units - roundHalfEven num den| * |(den : ℤ)| := by
          gcongr
          exact Int.one_le_abs (sub_ne_zero.mpr hsame)
        _ = |(units * den - num) - (roundHalfEven num den * den - num)| := by
          rw [← abs_mul]; ring_nf
        _ ≤ _ := abs_sub _ _
    refine ⟨by linarith, fun hequal => .inr (htie ?_)⟩
    linarith

end Rounding

/-- A natural with 64 bits becomes the nearest double, whose last bit counts `2 ^ 11`. -/
theorem exists_nearest_eq_finite {n : ℕ} (hfrom : 9223372036854775808 ≤ n)
    (hbelow : n < 18446744073709551616) :
    ∃ x, nearest false n 1 = .finite x ∧ x.negative = false ∧
      x.toRat = (roundHalfEven n 2048 * 2048 : ℕ) ∧
      (roundHalfEven n 2048 % 2 = 0 → x.significand % 2 = 0) := by
  have hlog : n.log2 = 63 := by
    rw [Nat.log2_eq_iff (by omega)]
    omega
  have hdown : scaleDown n 1 11 = (n, 2048) := by simp [scaleDown]
  have hexponent : exponentFor n 1 = 11 := by
    have hfull : ¬ n / 2048 < leadingBit64 := by simp only [leadingBit64]; omega
    have hone : (1 : Nat).log2 = 0 := by decide
    simp [exponentFor, hlog, hone, hdown, hfull]
  obtain ⟨hlow, hhigh⟩ := roundHalfEven_bounds n 2048
  unfold nearest
  simp only [hexponent, hdown]
  -- rounding may carry into the next power of two, which is still far below the largest double
  split
  next hcarry =>
    refine ⟨⟨false, leadingBit64, 12, by decide⟩, by decide, rfl, ?_, fun _ => rfl⟩
    rw [hcarry]
    norm_num [Finite64.toRat]
  next hcarry =>
    have hcanonical : IsCanonical64 (roundHalfEven n 2048) 11 := by
      simp only [IsCanonical64, significandLimit64, leadingBit64] at hcarry ⊢
      omega
    refine ⟨_, dif_pos hcanonical, rfl, ?_, id⟩
    norm_num [Finite64.toRat]

/-- Nothing but multiples of `2 ^ 11` can be as near to a natural with 64 bits as the nearest one
of them, since the doubles of a smaller exponent are all below such a natural. -/
theorem isNearest_of_toRat_eq {x : Finite64} {n : ℕ} (hfrom : 9223372036854775808 ≤ n)
    (hvalue : x.toRat = (roundHalfEven n 2048 * 2048 : ℕ))
    (heven : roundHalfEven n 2048 % 2 = 0 → x.significand % 2 = 0) : x.IsNearest n := by
  have hx : x.toRat - n = ((roundHalfEven n 2048 * 2048 - n : ℤ) : ℚ) := by
    rw [hvalue]
    push_cast
    rfl
  have hround (units : ℤ) : |x.toRat - n| ≤ |(units * 2048 : ℚ) - n| ∧
      (|(units * 2048 : ℚ) - n| = |x.toRat - n| →
        (units : ℚ) * 2048 = x.toRat ∨ x.significand % 2 = 0) := by
    obtain ⟨hclosest, htie⟩ := abs_roundHalfEven_sub_le n (by decide : 0 < 2048) units
    have hunits : (units * 2048 : ℚ) - n = ((units * 2048 - n : ℤ) : ℚ) := by push_cast; rfl
    rw [hx, hunits]
    refine ⟨by exact_mod_cast hclosest, fun hequal => ?_⟩
    rcases htie (by exact_mod_cast hequal) with rfl | hroundEven
    · left
      rw [hvalue]
      push_cast
      rfl
    · exact .inr (heven hroundEven)
  have hlarge : (9223372036854775808 : ℚ) ≤ n := by exact_mod_cast hfrom
  have hcases (y : Finite64) : |x.toRat - n| < |y.toRat - n| ∨
      ∃ units : ℤ, y.toRat = units * 2048 := by
    rcases y.abs_toRat_lt_or_eq_mul with hsmall | hmultiple
    · left
      have hbound := (hround 4503599627370496).1
      have hedge : |((4503599627370496 : ℤ) * 2048 : ℚ) - n| = n - 9223372036854775808 := by
        norm_num only
        rw [abs_of_nonpos (by linarith), neg_sub]
      rw [hedge] at hbound
      have hless := (le_abs_self y.toRat).trans_lt hsmall
      have habove := neg_abs_le (y.toRat - n)
      linarith
    · exact .inr hmultiple
  constructor
  · intro y
    rcases hcases y with hless | ⟨units, hy⟩
    · exact hless.le
    · rw [hy]
      exact (hround units).1
  · intro y hequal
    rcases hcases y with hless | ⟨units, hy⟩
    · exact absurd hequal hless.ne'
    · rw [hy] at hequal ⊢
      exact (hround units).2 hequal

/-- An integer that needs 64 bits without a sign becomes the nearest of all doubles, which is
a finite one with the same sign. -/
theorem exists_ofInt_eq_finite {n : ℤ} (hfrom : 9223372036854775808 ≤ n)
    (hbelow : n < 18446744073709551616) :
    ∃ x, ofInt n = .finite x ∧ x.negative = false ∧ x.IsNearest n := by
  obtain ⟨m, rfl⟩ : ∃ m : ℕ, n = m := ⟨n.toNat, by omega⟩
  obtain ⟨x, hx, hpositive, hvalue, heven⟩ :=
    exists_nearest_eq_finite (n := m) (by omega) (by omega)
  have hofInt : ofInt m = .finite x := by
    have hsign : decide ((m : ℤ) < 0) = false := by simp
    have hsize : (Nat.toDigits 10 m).length ≤ 20 := by
      rw [Nat.length_toDigits_le_iff (by omega) (by omega)]
      omega
    simp only [ofInt, ofDecimal, hsign, Int.natAbs_natCast]
    rw [if_neg (by omega), if_neg (by omega), if_neg (by omega), if_pos (by omega)]
    simpa using hx
  exact ⟨x, hofInt, hpositive, isNearest_of_toRat_eq (by omega) hvalue heven⟩

end Binary64

end RequestFilter
