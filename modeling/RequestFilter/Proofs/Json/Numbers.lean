import RequestFilter.Proofs.Binary64.Shortest
import RequestFilter.Proofs.Json.Integers

/-!
# Written numbers

The text of a number is a numeral that stands for this number: the digits of an
integer are its own, and the shortest digits of a double are read as the double,
wherever their point is.
-/

namespace RequestFilter

namespace Json

section Digits

theorem digitsValue_append (value : Nat) (ds others : List Char) :
    digitsValue value (ds ++ others) = digitsValue (digitsValue value ds) others :=
  Nat.ofDigitChars_append value

theorem digitsValue_replicate_zero (value count : Nat) :
    digitsValue value (List.replicate count '0') = 10 ^ count * value :=
  Nat.ofDigitChars_replicate_zero

theorem digitsValue_decimalDigits (n : Nat) : digitsValue 0 (decimalDigits n) = n :=
  Nat.ofDigitChars_ten_toDigits

theorem areDigits_decimalDigits (n : Nat) : AreDigits (decimalDigits n) :=
  fun _ => isDigit_of_mem_decimalDigits

theorem AreDigits.append {ds others : List Char} (hds : AreDigits ds) (hothers : AreDigits others) :
    AreDigits (ds ++ others) :=
  fun c hc => (List.mem_append.mp hc).elim (hds c) (hothers c)

/-- The digits of a number begin with a zero for zero only. -/
theorem exists_decimalDigits_eq_cons {n : Nat} (hn : n ≠ 0) :
    ∃ first rest, decimalDigits n = first :: rest ∧ first ≠ '0' := by
  induction n using Nat.strongRecOn with
  | ind n ih =>
      unfold decimalDigits
      rw [Nat.toDigits_eq_if (by decide)]
      split
      next => exact ⟨_, [], rfl, Nat.digitChar_eq_zero.not.mpr hn⟩
      next hmore =>
        obtain ⟨first, rest, hdigits, hfirst⟩ := ih (n / 10) (by omega) (by omega)
        unfold decimalDigits at hdigits
        exact ⟨first, rest ++ [Nat.digitChar (n % 10)], by rw [hdigits]; rfl, hfirst⟩

end Digits

namespace Numeral

/-- The numeral has this text, and it is read as the decimal with this sign. -/
structure IsDecimal (n : Numeral) (negative : Bool) (d : Decimal) (text : List Char) : Prop where
  text_eq : n.text = signed negative text
  number?_eq : ∃ power : ℤ, (n.significand * 10 ^ power : ℚ) = d.toRat ∧
    n.number? = Number.ofBinary64? (Binary64.ofDecimal negative n.significand power)

/-- A numeral without an exponent that has digits behind a point. -/
theorem isDecimal_of_fraction {n : Numeral} {d : Decimal} (hexponent : n.exponent = none)
    (hfraction : n.fraction ≠ [])
    (hvalue : (n.significand * 10 ^ (-(n.fraction.length : ℤ)) : ℚ) = d.toRat) :
    n.IsDecimal n.negative d (n.whole ++ '.' :: n.fraction) where
  text_eq := by simp [text, magnitudeText, fractionText, exponentText, hexponent, hfraction]
  number?_eq := ⟨_, hvalue, by simp [number?, hexponent, hfraction]⟩

end Numeral

section Decimals

variable {d : Decimal}

/-- A whole part of a numeral: zeros stand in front of no other digit. -/
def IsPlainWhole (whole : List Char) : Prop :=
  whole = ['0'] ∨ ∃ first rest, whole = first :: rest ∧ first ≠ '0'

theorem isPlainWhole_decimalDigits_append (n : Nat) {others : List Char}
    (h : n = 0 → others = []) : IsPlainWhole (decimalDigits n ++ others) := by
  by_cases hn : n = 0
  · left
    rw [h hn, hn]
    rfl
  · obtain ⟨first, rest, hdigits, hfirst⟩ := exists_decimalDigits_eq_cons hn
    exact .inr ⟨first, rest ++ others, by rw [hdigits]; rfl, hfirst⟩

/-- Wherever the point is, the digits on both sides of it are the decimal. -/
theorem positional_spec (hzero : d.digits = 0 → d.power = 0) :
    IsPlainWhole d.positional.1 ∧
      (digitsValue 0 (d.positional.1 ++ d.positional.2) *
        10 ^ (-(d.positional.2.length : ℤ)) : ℚ) = d.toRat := by
  have hvalue := digitsValue_decimalDigits d.digits
  simp only [Decimal.positional, Decimal.toRat]
  split
  next hwhole =>
    obtain ⟨zeros, hzeros⟩ := Int.eq_ofNat_of_zero_le hwhole
    refine ⟨isPlainWhole_decimalDigits_append _ fun hd => by rw [hzero hd]; rfl, ?_⟩
    simp [digitsValue_append, hvalue, digitsValue_replicate_zero, hzeros, mul_comm]
  next hfraction =>
  have hd : d.digits ≠ 0 := fun hd => hfraction (hzero hd).ge
  split
  next hinside =>
    generalize hcut : ((decimalDigits d.digits).length + d.power).toNat = cut
    have hpower : -(((decimalDigits d.digits).length - cut : ℕ) : ℤ) = d.power := by omega
    rw [List.take_append_drop, List.length_drop, hpower, hvalue]
    obtain ⟨first, rest, hdigits, hfirst⟩ := exists_decimalDigits_eq_cons hd
    obtain ⟨cut, rfl⟩ := Nat.exists_eq_succ_of_ne_zero (n := cut) (by omega)
    exact ⟨.inr ⟨first, rest.take cut, by rw [hdigits]; rfl, hfirst⟩, rfl⟩
  next hbefore =>
    refine ⟨.inl rfl, ?_⟩
    have hpower : -(((-((decimalDigits d.digits).length + d.power)).toNat +
        (decimalDigits d.digits).length : ℕ) : ℤ) = d.power := by omega
    rw [List.length_append, List.length_replicate, hpower, digitsValue_append, digitsValue_append,
      digitsValue_replicate_zero, show digitsValue 0 ['0'] = 0 from rfl, Nat.mul_zero, hvalue]

/-- A decimal with a point is read as it stands, where a whole one has a zero behind the point. -/
theorem exists_isDecimal_positional (negative : Bool) (hzero : d.digits = 0 → d.power = 0) :
    ∃ n : Numeral, n.IsDecimal negative d (match d.positional with
      | (whole, []) => whole ++ ['.', '0']
      | (whole, fraction) => whole ++ '.' :: fraction) := by
  obtain ⟨hplain, hvalue⟩ := positional_spec hzero
  obtain ⟨-, hwhole, hfraction⟩ := d.positional_digits
  rcases hpositional : d.positional with ⟨whole, fraction⟩
  rw [hpositional] at hplain hvalue hwhole hfraction
  cases fraction with
  | nil =>
      let n : Numeral := ⟨negative, whole, ['0'], none, hwhole, hplain, by decide⟩
      refine ⟨n, n.isDecimal_of_fraction rfl (List.cons_ne_nil _ _) ?_⟩
      have hsignificand : n.significand = 10 * digitsValue 0 whole :=
        digitsValue_append 0 whole ['0']
      rw [hsignificand, ← hvalue]
      simp [n, mul_comm]
  | cons first rest =>
      let n : Numeral := ⟨negative, whole, first :: rest, none, hwhole, hplain, hfraction⟩
      exact ⟨n, n.isDecimal_of_fraction rfl (List.cons_ne_nil _ _) hvalue⟩

/-- The exponent that is written for a power of ten. -/
def writtenExponent (power : Int) : Exponent where
  letter := 'e'
  sign := [if power < 0 then '-' else '+']
  digits := decimalDigits power.natAbs
  isLetter := .inl rfl
  isSign := by split <;> simp
  areDigits := areDigits_decimalDigits _
  ne_nil := decimalDigits_ne_nil _

theorem power_writtenExponent (power : Int) : (writtenExponent power).power = power := by
  have hvalue : digitsValue 0 (writtenExponent power).digits = power.natAbs :=
    digitsValue_decimalDigits power.natAbs
  have hsign : (writtenExponent power).isNegative = decide (power < 0) := by
    by_cases h : power < 0 <;> simp [Exponent.isNegative, writtenExponent, h]
  unfold Exponent.power
  rw [hvalue, hsign]
  split
  next h =>
    rw [decide_eq_true_eq] at h
    omega
  next h =>
    rw [decide_eq_true_eq] at h
    omega

/-- A decimal with one digit in front of the point and an exponent is read as it stands. -/
theorem exists_isDecimal_scientific (negative : Bool) {first : Char} {rest : List Char}
    (hdigits : decimalDigits d.digits = first :: rest) (hfirst : first ≠ '0')
    (hpower : d.magnitude.natAbs < 2147483648) :
    ∃ n : Numeral, n.IsDecimal negative d (match decimalDigits d.digits with
      | [] => []
      | [digit] => digit :: Decimal.exponentPart d.magnitude
      | digit :: rest => digit :: '.' :: rest ++ Decimal.exponentPart d.magnitude) := by
  have hall := areDigits_decimalDigits d.digits
  rw [hdigits] at hall
  obtain ⟨hfirstDigit, hrest⟩ := List.forall_mem_cons.mp hall
  let n : Numeral := ⟨negative, [first], rest, some (writtenExponent d.magnitude),
    by simpa [AreDigits] using hfirstDigit, .inr ⟨first, [], rfl, hfirst⟩, hrest⟩
  have hsignificand : n.significand = d.digits := by
    rw [← digitsValue_decimalDigits d.digits, hdigits]
    rfl
  have hmagnitude : -(rest.length : ℤ) + d.magnitude = d.power := by
    rw [Decimal.magnitude, hdigits, List.length_cons]
    push_cast
    ring
  refine ⟨n, ?_, d.power, ?_, ?_⟩
  · rw [hdigits]
    cases rest <;> rfl
  · rw [hsignificand]
    rfl
  · have hsmall : digitsValue 0 (writtenExponent d.magnitude).digits < 2147483648 := by
      rwa [writtenExponent, digitsValue_decimalDigits]
    simp only [n, Numeral.number?, hsmall, if_true, power_writtenExponent, hmagnitude]

theorem exists_isDecimal_document (negative : Bool) (hzero : d.digits = 0 → d.power = 0)
    (hpower : d.magnitude.natAbs < 2147483648) :
    ∃ n : Numeral, n.IsDecimal negative d d.document := by
  unfold Decimal.document
  simp only
  split
  next => exact exists_isDecimal_positional negative hzero
  next hfar =>
    have hd : d.digits ≠ 0 := by
      intro hd
      have hone : d.magnitude = 0 := by
        rw [Decimal.magnitude, hd, hzero hd]
        rfl
      omega
    obtain ⟨first, rest, hdigits, hfirst⟩ := exists_decimalDigits_eq_cons hd
    exact exists_isDecimal_scientific negative hdigits hfirst hpower

end Decimals

section Numbers

/-- The text of a double is a numeral that is read as this double. -/
theorem exists_numeral_of_finite (x : Finite64) :
    ∃ n : Numeral, n.text = x.documentText.toList ∧ n.number? = some (.real x) := by
  unfold Finite64.documentText
  rw [String.toList_ofList]
  by_cases hsignificand : x.significand = 0
  · have hshortest : x.shortest .even = ⟨0, 0⟩ := if_pos (by simp [Finite64.isZero, hsignificand])
    obtain ⟨n, htext, power, hvalue, hnumber⟩ :=
      exists_isDecimal_document (d := ⟨0, 0⟩) x.negative (fun _ => rfl) (by decide)
    have hzero : n.significand = 0 := by
      have hproduct : (n.significand * 10 ^ power : ℚ) = 0 := by
        rw [hvalue, Decimal.toRat, Nat.cast_zero, zero_mul]
      have hpower : (10 : ℚ) ^ power ≠ 0 := by positivity
      exact_mod_cast (mul_eq_zero.mp hproduct).resolve_right hpower
    refine ⟨n, by rw [htext, hshortest], ?_⟩
    rw [hnumber, hzero, Binary64.ofDecimal_zero hsignificand]
    rfl
  · have hattracts := Finite64.attracts_shortest hsignificand .even
    obtain ⟨hlow, hhigh⟩ := Binary64.bounds_of_attracts hsignificand hattracts
    obtain ⟨hdigits, hmore, hless⟩ := Binary64.length_add_power_bounds hlow hhigh
    have hmagnitude : (x.shortest .even).magnitude.natAbs < 2147483648 := by
      unfold Decimal.magnitude decimalDigits
      omega
    obtain ⟨n, htext, power, hvalue, hnumber⟩ := exists_isDecimal_document x.negative
      (fun hd => absurd hd hdigits) hmagnitude
    refine ⟨n, htext, ?_⟩
    rw [← hvalue] at hattracts
    rw [hnumber, Binary64.ofDecimal_eq_of_attracts hsignificand hattracts]
    rfl

/-- The text of an integer is a numeral that is read as this integer. -/
theorem exists_numeral_of_whole (negative : Bool) (magnitude : Nat)
    (hsign : ¬(negative = true ∧ magnitude = 0))
    (inRange : IsDocumentInteger (if negative then -(magnitude : Int) else magnitude)) :
    ∃ n : Numeral, n.text = (Number.integer _ inRange).text.toList ∧
      n.number? = some (.integer _ inRange) := by
  have hplain : IsPlainWhole (decimalDigits magnitude) := by
    simpa using isPlainWhole_decimalDigits_append magnitude fun _ => rfl
  let n : Numeral := ⟨negative, decimalDigits magnitude, [], none, areDigits_decimalDigits _, hplain,
    by decide⟩
  have hinteger : n.IsInteger := ⟨rfl, rfl⟩
  refine ⟨n, ?_, ?_⟩
  · rw [Numeral.text_of_isInteger hinteger]
    exact (toList_toString_int hsign).symm
  · rw [Numeral.number?_of_isInteger hinteger, digitsValue_decimalDigits]
    exact dif_pos ⟨inRange, hsign⟩

/-- Every number is read back from its text. -/
theorem Number.exists_numeral (number : Number) :
    ∃ n : Numeral, n.text = number.text.toList ∧ n.number? = some number := by
  cases number with
  | integer value inRange =>
      cases value with
      | ofNat magnitude => exact exists_numeral_of_whole false magnitude (by simp) inRange
      | negSucc less => exact exists_numeral_of_whole true (less + 1) (by simp) inRange
  | real x => exact exists_numeral_of_finite x

end Numbers

end Json

end RequestFilter
