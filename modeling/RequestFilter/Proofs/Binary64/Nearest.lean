import RequestFilter.Proofs.Binary64

/-!
# What becomes a double

The numbers that become a double lie between the middles to its two neighbours. A
middle itself becomes the double with the even significand. Below a power of two the
neighbour is half as far away as above it.
-/

namespace RequestFilter

namespace Finite64

/-- How far what becomes a double reaches below it, in units of its last place. -/
def reachBelow (x : Finite64) : ℚ :=
  if x.significand = leadingBit64 ∧ -1074 < x.exponent then 1 / 4 else 1 / 2

/-- A number without a sign lies among those that become the double. -/
structure Attracts (x : Finite64) (size : ℚ) : Prop where
  low_le : (x.significand - x.reachBelow) * 2 ^ x.exponent ≤ size
  le_high : size ≤ (x.significand + 1 / 2) * 2 ^ x.exponent
  even_of_eq_low : size = (x.significand - x.reachBelow) * 2 ^ x.exponent → x.significand % 2 = 0
  even_of_eq_high : size = (x.significand + 1 / 2) * 2 ^ x.exponent → x.significand % 2 = 0

theorem reachBelow_bounds (x : Finite64) : 1 / 4 ≤ x.reachBelow ∧ x.reachBelow ≤ 1 / 2 := by
  unfold reachBelow
  split <;> norm_num

end Finite64

namespace Binary64

section Scaling

variable {num den : ℕ}

theorem scaleDown_den_pos (num : ℕ) (hden : 0 < den) (exponent : ℤ) :
    0 < (scaleDown num den exponent).2 := by
  unfold scaleDown
  split
  · exact Nat.mul_pos hden (Nat.pow_pos (by decide))
  · exact hden

theorem scaleDown_div (num den : ℕ) (exponent : ℤ) :
    ((scaleDown num den exponent).1 / (scaleDown num den exponent).2 : ℚ) =
      num / den / 2 ^ exponent := by
  unfold scaleDown
  split
  next h =>
    obtain ⟨k, rfl⟩ := Int.eq_ofNat_of_zero_le h
    simp [div_mul_eq_div_div]
  next h =>
    obtain ⟨k, rfl⟩ : ∃ k : ℕ, exponent = -k := ⟨(-exponent).toNat, by omega⟩
    simp [mul_div_right_comm]

/-- The guess from the lengths of numerator and denominator is one too high at most. -/
theorem div_bounds_log2 (hnum : 0 < num) (hden : 0 < den) :
    (2 : ℚ) ^ ((num.log2 : ℤ) - den.log2 - 1) < num / den ∧
      (num / den : ℚ) < 2 ^ ((num.log2 : ℤ) - den.log2 + 1) := by
  have hdenPos : (0 : ℚ) < den := by exact_mod_cast hden
  have hnumLow : (2 : ℚ) ^ (num.log2 : ℤ) ≤ num := by
    exact_mod_cast Nat.log2_self_le hnum.ne'
  have hnumHigh : (num : ℚ) < 2 ^ ((num.log2 : ℤ) + 1) := by
    exact_mod_cast Nat.lt_log2_self (n := num)
  have hdenLow : (2 : ℚ) ^ (den.log2 : ℤ) ≤ den := by
    exact_mod_cast Nat.log2_self_le hden.ne'
  have hdenHigh : (den : ℚ) < 2 ^ ((den.log2 : ℤ) + 1) := by
    exact_mod_cast Nat.lt_log2_self (n := den)
  rw [lt_div_iff₀ hdenPos, div_lt_iff₀ hdenPos]
  constructor
  · calc (2 : ℚ) ^ ((num.log2 : ℤ) - den.log2 - 1) * den
      _ < 2 ^ ((num.log2 : ℤ) - den.log2 - 1) * 2 ^ ((den.log2 : ℤ) + 1) := by gcongr
      _ = 2 ^ (num.log2 : ℤ) := by rw [← zpow_add₀ (by norm_num)]; congr 1; ring
      _ ≤ num := hnumLow
  · calc (num : ℚ)
      _ < 2 ^ ((num.log2 : ℤ) + 1) := hnumHigh
      _ = 2 ^ ((num.log2 : ℤ) - den.log2 + 1) * 2 ^ (den.log2 : ℤ) := by
        rw [← zpow_add₀ (by norm_num)]; congr 1; ring
      _ ≤ 2 ^ ((num.log2 : ℤ) - den.log2 + 1) * den := by gcongr

/-- At the exponent of a fraction its significand has 53 bits, or fewer at the smallest one. -/
theorem exponentFor_spec (hnum : 0 < num) (hden : 0 < den) :
    (num / den : ℚ) < 2 ^ (53 + exponentFor num den) ∧ -1074 ≤ exponentFor num den ∧
      ((2 : ℚ) ^ (52 + exponentFor num den) ≤ num / den ∨ exponentFor num den = -1074) := by
  obtain ⟨hlow, hhigh⟩ := div_bounds_log2 hnum hden
  let guess : ℤ := (num.log2 : ℤ) - den.log2 - 52
  have hscaledPos := scaleDown_den_pos num hden guess
  have hscaled := scaleDown_div num den guess
  have hguess : exponentFor num den = max (if (scaleDown num den guess).1 /
      (scaleDown num den guess).2 < leadingBit64 then guess - 1 else guess) (-1074) := rfl
  -- whether the quotient has its leading bit tells which of the two powers bounds the fraction
  have hbit : (scaleDown num den guess).1 / (scaleDown num den guess).2 < leadingBit64 ↔
      (num / den : ℚ) < 2 ^ (52 + guess) := by
    have hpos : (0 : ℚ) < (scaleDown num den guess).2 := by exact_mod_cast hscaledPos
    have hunit : (0 : ℚ) < 2 ^ guess := by positivity
    rw [Nat.div_lt_iff_lt_mul hscaledPos, zpow_add₀ (by norm_num), ← div_lt_iff₀ hunit, ← hscaled,
      div_lt_iff₀ hpos]
    norm_num [leadingBit64]
    exact_mod_cast Iff.rfl
  have hexact : ∃ exact : ℤ, exponentFor num den = max exact (-1074) ∧
      (num / den : ℚ) < 2 ^ (53 + exact) ∧ (2 : ℚ) ^ (52 + exact) ≤ num / den := by
    rw [hguess]
    split
    next hless =>
      refine ⟨guess - 1, rfl, ?_, ?_⟩
      · have hpower := hbit.mp hless
        rwa [show 53 + (guess - 1) = 52 + guess by ring]
      · rw [show 52 + (guess - 1) = (num.log2 : ℤ) - den.log2 - 1 by simp only [guess]; ring]
        exact hlow.le
    next hleading =>
      refine ⟨guess, rfl, ?_, not_lt.mp (hbit.not.mp hleading)⟩
      rwa [show 53 + guess = (num.log2 : ℤ) - den.log2 + 1 by simp only [guess]; ring]
  obtain ⟨exact, hexponent, hless, hleast⟩ := hexact
  rw [hexponent]
  refine ⟨hless.trans_le (zpow_le_zpow_right₀ (by norm_num) (by omega)), by omega, ?_⟩
  rcases le_total (-1074) exact with hnormal | hsubnormal
  · left
    rwa [max_eq_left hnormal]
  · exact .inr (max_eq_right hsubnormal)

/-- What is rounded to a natural is known by its distance. -/
theorem roundHalfEven_eq {m : ℕ} (hden : 0 < den) (hclose : |(m : ℚ) - num / den| ≤ 1 / 2)
    (heven : |(m : ℚ) - num / den| = 1 / 2 → m % 2 = 0) : roundHalfEven num den = m := by
  have hdenPos : (0 : ℚ) < den := by exact_mod_cast hden
  obtain ⟨hhalf, htie⟩ := two_mul_abs_roundHalfEven_sub num hden
  have hscale : 2 * (|(roundHalfEven num den : ℚ) - num / den| * den) =
      ((2 * |(roundHalfEven num den * den - num : ℤ)| : ℤ) : ℚ) := by
    push_cast
    rw [← abs_of_pos hdenPos, ← abs_mul, abs_of_pos hdenPos, sub_mul, div_mul_cancel₀ _ hdenPos.ne']
  have hrounded : |(roundHalfEven num den : ℚ) - num / den| ≤ 1 / 2 := by
    have hcast : 2 * (|(roundHalfEven num den : ℚ) - num / den| * den) ≤ den := by
      rw [hscale]
      exact_mod_cast hhalf
    nlinarith
  by_contra hne
  have hapart : (1 : ℚ) ≤ |(roundHalfEven num den : ℚ) - m| := by
    exact_mod_cast Int.one_le_abs (sub_ne_zero.mpr (Int.ofNat_inj.not.mpr hne))
  have htriangle := abs_sub_le (roundHalfEven num den : ℚ) (num / den) m
  rw [abs_sub_comm ((num : ℚ) / den) m] at htriangle
  -- both are half a unit off, hence both even, and yet they are neighbours
  have hmEven := heven (by linarith)
  have hroundedEven : roundHalfEven num den % 2 = 0 := by
    refine htie ?_
    have hexactly : |(roundHalfEven num den : ℚ) - num / den| = 1 / 2 := by linarith
    rw [hexactly] at hscale
    have hcast : ((2 * |(roundHalfEven num den * den - num : ℤ)| : ℤ) : ℚ) = (den : ℤ) := by
      rw [← hscale]
      push_cast
      ring
    exact_mod_cast hcast
  have hnear : |(roundHalfEven num den - m : ℤ)| ≤ 1 := by
    have hcast : |(roundHalfEven num den : ℚ) - m| ≤ 1 := by linarith
    exact_mod_cast hcast
  rw [abs_le] at hnear
  omega

end Scaling

section Nearest

variable {x : Finite64} {num den : ℕ}

theorem ofParts_eq (x : Finite64) : ofParts x.negative x.significand x.exponent = .finite x :=
  dif_pos x.canonical

/-- At its own exponent, what becomes a double is rounded to its significand. -/
theorem roundHalfEven_of_attracts (hden : 0 < den) (h : x.Attracts (num / den)) :
    roundHalfEven (scaleDown num den x.exponent).1 (scaleDown num den x.exponent).2 =
      x.significand := by
  have hunit : (0 : ℚ) < 2 ^ x.exponent := by positivity
  have hreach := x.reachBelow_bounds
  have hlow := (le_div_iff₀ hunit).mpr h.low_le
  have hhigh := (div_le_iff₀ hunit).mpr h.le_high
  refine roundHalfEven_eq (scaleDown_den_pos num hden _) ?_ fun htie => ?_
  · rw [scaleDown_div, abs_le]
    constructor <;> linarith
  · rw [scaleDown_div] at htie
    rcases (abs_eq (by norm_num)).mp htie with habove | hbelow
    · refine h.even_of_eq_low (le_antisymm ?_ h.low_le)
      rw [← div_le_iff₀ hunit]
      linarith
    · refine h.even_of_eq_high (le_antisymm h.le_high ?_)
      rw [← le_div_iff₀ hunit]
      linarith

/-- What becomes a power of two from below is rounded to it at the exponent below, by a carry. -/
theorem roundHalfEven_carry {exponent : ℤ} (hden : 0 < den)
    (hlow : (9007199254740992 - 1 / 2) * 2 ^ exponent ≤ (num / den : ℚ))
    (hhigh : (num / den : ℚ) < 9007199254740992 * 2 ^ exponent) :
    roundHalfEven (scaleDown num den exponent).1 (scaleDown num den exponent).2 =
      significandLimit64 := by
  have hunit : (0 : ℚ) < 2 ^ exponent := by positivity
  rw [← le_div_iff₀ hunit] at hlow
  rw [← div_lt_iff₀ hunit] at hhigh
  refine roundHalfEven_eq (scaleDown_den_pos num hden _) ?_ fun _ => rfl
  rw [scaleDown_div, abs_le]
  norm_num only [significandLimit64, Nat.cast_ofNat] at hlow ⊢
  constructor <;> linarith

/-- What becomes a double other than zero is positive. -/
theorem num_pos_of_attracts (hden : 0 < den) (hsignificand : x.significand ≠ 0)
    (h : x.Attracts (num / den)) : 0 < num := by
  have hunit : (0 : ℚ) < 2 ^ x.exponent := by positivity
  have hreach := x.reachBelow_bounds
  have hone : (1 : ℚ) ≤ x.significand := by exact_mod_cast Nat.one_le_iff_ne_zero.mpr hsignificand
  have hpos : (0 : ℚ) < num / den := lt_of_lt_of_le (by nlinarith) h.low_le
  have hdenPos : (0 : ℚ) < den := by exact_mod_cast hden
  rw [div_pos_iff_of_pos_right hdenPos] at hpos
  exact_mod_cast hpos

/-- What becomes a double is not beyond all significands of 53 bits at the exponent of the double. -/
theorem exponentFor_le_of_attracts (hden : 0 < den) (hsignificand : x.significand ≠ 0)
    (h : x.Attracts (num / den)) : exponentFor num den ≤ x.exponent := by
  obtain ⟨-, hsmallest, hfull⟩ := exponentFor_spec (num_pos_of_attracts hden hsignificand h) hden
  obtain ⟨hlimit, hleast, -, -⟩ := x.canonical
  have hunit : (0 : ℚ) < 2 ^ x.exponent := by positivity
  have hlimitCast : (x.significand : ℚ) ≤ 9007199254740991 := by
    exact_mod_cast Nat.le_of_lt_succ hlimit
  by_contra habove
  have hlarge : (2 : ℚ) ^ (53 + x.exponent) ≤ num / den :=
    (zpow_le_zpow_right₀ (by norm_num) (by omega)).trans (hfull.resolve_right (by omega))
  rw [zpow_add₀ (by norm_num : (2 : ℚ) ≠ 0) 53] at hlarge
  have hhigh := h.le_high
  norm_num at hlarge
  nlinarith

/-- If a number of a smaller exponent becomes a double, then the double is a power of two and the
number is just below it. -/
theorem below_power_of_attracts (hden : 0 < den) (hsignificand : x.significand ≠ 0)
    (h : x.Attracts (num / den)) (hbelow : exponentFor num den < x.exponent) :
    x.significand = leadingBit64 ∧ exponentFor num den = x.exponent - 1 ∧
      (9007199254740992 - 1 / 2) * 2 ^ (x.exponent - 1) ≤ (num / den : ℚ) ∧
      (num / den : ℚ) < 9007199254740992 * 2 ^ (x.exponent - 1) := by
  obtain ⟨hless, hsmallest, -⟩ := exponentFor_spec (num_pos_of_attracts hden hsignificand h) hden
  have hunit : (0 : ℚ) < 2 ^ x.exponent := by positivity
  have hreach := x.reachBelow_bounds
  have hpower : (2 : ℚ) ^ (53 + exponentFor num den) ≤ 2 ^ (52 + x.exponent) :=
    zpow_le_zpow_right₀ (by norm_num) (by omega)
  rw [zpow_add₀ (by norm_num : (2 : ℚ) ≠ 0) 52] at hpower
  have hsmall : (x.significand : ℚ) - x.reachBelow < 4503599627370496 := by
    have hbound := h.low_le.trans_lt (hless.trans_le hpower)
    norm_num at hbound
    exact lt_of_mul_lt_mul_right hbound hunit.le
  have hbit : x.significand = leadingBit64 := by
    obtain ⟨-, -, -, hleading⟩ := x.canonical
    have hupper : x.significand < 4503599627370497 := by
      have hcast : (x.significand : ℚ) < 4503599627370497 := by linarith
      exact_mod_cast hcast
    simp only [leadingBit64] at hleading ⊢
    omega
  have hlow := h.low_le
  have hquarter : x.reachBelow = 1 / 4 := if_pos ⟨hbit, by omega⟩
  rw [hquarter, hbit] at hlow
  norm_num [leadingBit64] at hlow
  have hnext : exponentFor num den = x.exponent - 1 := by
    by_contra hne
    have hfar : (2 : ℚ) ^ (53 + exponentFor num den) ≤ 2 ^ (51 + x.exponent) :=
      zpow_le_zpow_right₀ (by norm_num) (by omega)
    rw [zpow_add₀ (by norm_num : (2 : ℚ) ≠ 0) 51] at hfar
    norm_num at hfar
    linarith
  have hdouble : (2 : ℚ) ^ x.exponent = 2 * 2 ^ (x.exponent - 1) := by
    rw [← zpow_one_add₀ (by norm_num)]
    congr 1
    ring
  refine ⟨hbit, hnext, ?_, ?_⟩
  · rw [hdouble] at hlow
    linarith
  · rw [hnext, zpow_add₀ (by norm_num : (2 : ℚ) ≠ 0)] at hless
    norm_num at hless
    exact hless

/-- A double is the nearest one to every number that it attracts. -/
theorem nearest_eq_of_attracts (hden : 0 < den) (hsignificand : x.significand ≠ 0)
    (h : x.Attracts (num / den)) : nearest x.negative num den = .finite x := by
  unfold nearest
  simp only
  rcases (exponentFor_le_of_attracts hden hsignificand h).lt_or_eq with hbelow | hsame
  · obtain ⟨hbit, hnext, hlow, hhigh⟩ := below_power_of_attracts hden hsignificand h hbelow
    rw [hnext, if_pos (roundHalfEven_carry hden hlow hhigh),
      show x.exponent - 1 + 1 = x.exponent by ring, ← hbit, ofParts_eq]
  · rw [hsame, roundHalfEven_of_attracts hden h, if_neg (Nat.ne_of_lt x.canonical.1), ofParts_eq]

end Nearest

section Decimals

variable {x : Finite64}

/-- A number with so many digits lies between the two powers of ten. -/
theorem bounds_length_toDigits {n : ℕ} (hn : n ≠ 0) :
    10 ^ ((Nat.toDigits 10 n).length - 1) ≤ n ∧ n < 10 ^ (Nat.toDigits 10 n).length := by
  have hpos : 0 < (Nat.toDigits 10 n).length := Nat.length_toDigits_pos
  refine ⟨?_, (Nat.length_toDigits_le_iff (by decide) hpos).mp le_rfl⟩
  rcases Nat.eq_zero_or_pos ((Nat.toDigits 10 n).length - 1) with hone | hmore
  · rw [hone]
    exact Nat.one_le_iff_ne_zero.mpr hn
  · by_contra hless
    have hshort := (Nat.length_toDigits_le_iff (by decide : 1 < 10) hmore).mpr (not_le.mp hless)
    omega

theorem two_zpow_lt_ten_zpow : (2 : ℚ) ^ (1075 : ℤ) < 10 ^ (330 : ℤ) :=
  calc (2 : ℚ) ^ (1075 : ℤ)
    _ = (2 ^ (215 : ℤ)) ^ 5 := by rw [← zpow_natCast, ← zpow_mul]; congr 1
    _ < (10 ^ (66 : ℤ)) ^ 5 := by gcongr; norm_num
    _ = 10 ^ (330 : ℤ) := by rw [← zpow_natCast, ← zpow_mul]; congr 1

/-- All doubles but zero are far inside the powers of ten at which decimals are not looked at. -/
theorem bounds_of_attracts {size : ℚ} (hsignificand : x.significand ≠ 0) (h : x.Attracts size) :
    (10 : ℚ) ^ (-330 : ℤ) < size ∧ size < 10 ^ (330 : ℤ) := by
  have hreach := x.reachBelow_bounds
  obtain ⟨hlimit, hleast, hlargest, -⟩ := x.canonical
  have hone : (1 : ℚ) ≤ x.significand := by exact_mod_cast Nat.one_le_iff_ne_zero.mpr hsignificand
  have hlimitCast : (x.significand : ℚ) ≤ 9007199254740991 := by
    exact_mod_cast Nat.le_of_lt_succ hlimit
  constructor
  · calc (10 : ℚ) ^ (-330 : ℤ)
      _ = (10 ^ (330 : ℤ))⁻¹ := zpow_neg 10 330
      _ < (2 ^ (1075 : ℤ))⁻¹ := inv_strictAnti₀ (by positivity) two_zpow_lt_ten_zpow
      _ = 2⁻¹ * 2 ^ (-1074 : ℤ) := by
        rw [← zpow_neg, ← zpow_neg_one, ← zpow_add₀ (by norm_num)]
        congr 1
      _ ≤ 2⁻¹ * 2 ^ x.exponent := by gcongr; norm_num
      _ ≤ (x.significand - x.reachBelow) * 2 ^ x.exponent := by gcongr; linarith
      _ ≤ size := h.low_le
  · calc size
      _ ≤ (x.significand + 1 / 2) * 2 ^ x.exponent := h.le_high
      _ ≤ 2 ^ (53 : ℤ) * 2 ^ (971 : ℤ) := by
        gcongr
        · norm_num
          linarith
        · norm_num
      _ = 2 ^ (1024 : ℤ) := by rw [← zpow_add₀ (by norm_num)]; congr 1
      _ ≤ 2 ^ (1075 : ℤ) := zpow_le_zpow_right₀ (by norm_num) (by decide)
      _ < 10 ^ (330 : ℤ) := two_zpow_lt_ten_zpow

/-- The first digit of a decimal tells its size. -/
theorem length_add_power_bounds {digits : ℕ} {power : ℤ}
    (hlow : (10 : ℚ) ^ (-330 : ℤ) < digits * 10 ^ power)
    (hhigh : (digits * 10 ^ power : ℚ) < 10 ^ (330 : ℤ)) :
    digits ≠ 0 ∧ -330 < ((Nat.toDigits 10 digits).length : ℤ) + power ∧
      ((Nat.toDigits 10 digits).length : ℤ) + power ≤ 330 := by
  have hdigits : digits ≠ 0 := by
    rintro rfl
    rw [Nat.cast_zero, zero_mul] at hlow
    exact absurd hlow (by positivity : (0 : ℚ) ≤ 10 ^ (-330 : ℤ)).not_gt
  obtain ⟨hdigitsLow, hdigitsHigh⟩ := bounds_length_toDigits hdigits
  have hpos : 0 < (Nat.toDigits 10 digits).length := Nat.length_toDigits_pos
  generalize (Nat.toDigits 10 digits).length = length at hdigitsLow hdigitsHigh hpos ⊢
  have hupper : (10 : ℚ) ^ (-330 : ℤ) < 10 ^ ((length : ℤ) + power) :=
    calc (10 : ℚ) ^ (-330 : ℤ)
      _ < digits * 10 ^ power := hlow
      _ ≤ 10 ^ length * 10 ^ power := by gcongr; exact_mod_cast hdigitsHigh.le
      _ = 10 ^ ((length : ℤ) + power) := by rw [zpow_add₀ (by norm_num), zpow_natCast]
  have hlower : (10 : ℚ) ^ (((length - 1 : ℕ) : ℤ) + power) < 10 ^ (330 : ℤ) :=
    calc (10 : ℚ) ^ (((length - 1 : ℕ) : ℤ) + power)
      _ = 10 ^ (length - 1) * 10 ^ power := by rw [zpow_add₀ (by norm_num), zpow_natCast]
      _ ≤ digits * 10 ^ power := by gcongr; exact_mod_cast hdigitsLow
      _ < 10 ^ (330 : ℤ) := hhigh
  have hmore := (zpow_lt_zpow_iff_right₀ (by norm_num)).mp hupper
  have hless := (zpow_lt_zpow_iff_right₀ (by norm_num)).mp hlower
  exact ⟨hdigits, hmore, by omega⟩

/-- A decimal that a double attracts is read as the double. -/
theorem ofDecimal_eq_of_attracts {digits : ℕ} {power : ℤ} (hsignificand : x.significand ≠ 0)
    (h : x.Attracts (digits * 10 ^ power)) : ofDecimal x.negative digits power = .finite x := by
  obtain ⟨hsmallest, hlargest⟩ := bounds_of_attracts hsignificand h
  obtain ⟨hdigits, hmore, hless⟩ := length_add_power_bounds hsmallest hlargest
  unfold ofDecimal
  simp only
  rw [if_neg hdigits, if_neg (by omega), if_neg (by omega)]
  split
  next hwhole =>
    obtain ⟨k, rfl⟩ := Int.eq_ofNat_of_zero_le hwhole
    refine nearest_eq_of_attracts Nat.one_pos hsignificand ?_
    simpa using h
  next hfraction =>
    obtain ⟨k, rfl⟩ : ∃ k : ℕ, power = -k := ⟨(-power).toNat, by omega⟩
    refine nearest_eq_of_attracts (Nat.pow_pos (by decide)) hsignificand ?_
    simpa [div_eq_mul_inv] using h

/-- Zero is read as the zero with its sign, at whatever power. -/
theorem ofDecimal_zero (hsignificand : x.significand = 0) (power : ℤ) :
    ofDecimal x.negative 0 power = .finite x := by
  have hexponent : x.exponent = -1074 := by
    obtain ⟨-, -, -, hleading⟩ := x.canonical
    rw [hsignificand] at hleading
    exact hleading.resolve_left (by decide)
  have hparts := ofParts_eq x
  rw [hsignificand, hexponent] at hparts
  exact hparts

end Decimals

end Binary64

end RequestFilter
