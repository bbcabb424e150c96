import Mathlib.Algebra.Group.Int.Defs
import RequestFilter.Proofs.Json.Grammar
import RequestFilter.Proofs.Numeral
import RequestFilter.Value

/-!
# Integers of a document

A numeral without a fraction and an exponent stands for an integer. If that has 64
bits and the numeral is not minus zero, the text of the scalar is the text of the
numeral. Other integers are doubles, if they are numbers at all.
-/

namespace RequestFilter

namespace Json

section Digits

theorem digitChar_of_isDigit {c : Char} (h : c.isDigit = true) :
    c.toNat - '0'.toNat < 10 ∧ Nat.digitChar (c.toNat - '0'.toNat) = c := by
  have hrange : 48 ≤ c.toNat ∧ c.toNat ≤ 57 := by
    simpa [Char.isDigit, UInt32.le_iff_toNat_le] using h
  have hlt : c.toNat - '0'.toNat < 10 := by
    change c.toNat - 48 < 10
    omega
  refine ⟨hlt, Char.toNat_inj.mp ?_⟩
  rw [Nat.toNat_digitChar_of_lt_ten hlt]
  change 48 + (c.toNat - 48) = c.toNat
  omega

/-- Digits behind those of a number that is not zero are digits of the joint number. -/
theorem decimalDigits_append {value : Nat} (hvalue : 0 < value) {ds : List Char}
    (hds : AreDigits ds) : decimalDigits value ++ ds = decimalDigits (digitsValue value ds) := by
  induction ds generalizing value with
  | nil => exact List.append_nil _
  | cons d rest ih =>
      obtain ⟨hd, hrest⟩ := List.forall_mem_cons.mp hds
      obtain ⟨hlt, hchar⟩ := digitChar_of_isDigit hd
      have hone : decimalDigits value ++ [d] =
          decimalDigits (10 * value + (d.toNat - '0'.toNat)) := by
        have hdigits := Nat.toDigits_append_toDigits (by decide : 1 < 10) hvalue hlt
        rwa [Nat.toDigits_of_lt_base hlt, hchar] at hdigits
      calc decimalDigits value ++ d :: rest
        _ = (decimalDigits value ++ [d]) ++ rest := by rw [List.append_assoc, List.singleton_append]
        _ = decimalDigits (10 * value + (d.toNat - '0'.toNat)) ++ rest := by rw [hone]
        _ = decimalDigits (digitsValue value (d :: rest)) := ih (by omega) hrest

end Digits

namespace Numeral

variable {n : Numeral}

/-- The digits of a whole part are those of its value. -/
theorem decimalDigits_whole (n : Numeral) : decimalDigits (digitsValue 0 n.whole) = n.whole := by
  rcases n.isPlain with hwhole | ⟨first, rest, hwhole, hfirst⟩
  · rw [hwhole]
    rfl
  · have hdigits := n.areWhole
    rw [hwhole] at hdigits ⊢
    obtain ⟨hd, hrest⟩ := List.forall_mem_cons.mp hdigits
    obtain ⟨hlt, hchar⟩ := digitChar_of_isDigit hd
    have hpos : 0 < first.toNat - '0'.toNat := by
      refine Nat.pos_of_ne_zero fun hzero => hfirst ?_
      rw [← hchar, hzero]
      rfl
    have hone : decimalDigits (first.toNat - '0'.toNat) = [first] := by
      rw [decimalDigits, Nat.toDigits_of_lt_base hlt, hchar]
    have hall := decimalDigits_append hpos hrest
    rw [hone] at hall
    have hvalue : digitsValue 0 (first :: rest) = digitsValue (first.toNat - '0'.toNat) rest := by
      simp [digitsValue]
    rw [hvalue, ← hall]
    rfl

/-- The integer that a numeral without a fraction and an exponent stands for. -/
def integer (n : Numeral) : Int :=
  if n.negative then -(digitsValue 0 n.whole : Int) else digitsValue 0 n.whole

/-- The numeral of zero with a sign, which stands for no integer. -/
def IsMinusZero (n : Numeral) : Prop :=
  n.text = ['-', '0']

instance (n : Numeral) : Decidable n.IsMinusZero :=
  inferInstanceAs (Decidable (_ = _))

theorem text_of_isInteger (h : n.IsInteger) : n.text = signed n.negative n.whole := by
  simp [text, magnitudeText, fractionText, exponentText, h.1, h.2]

theorem isMinusZero_iff (h : n.IsInteger) :
    n.IsMinusZero ↔ n.negative = true ∧ digitsValue 0 n.whole = 0 := by
  rw [IsMinusZero, text_of_isInteger h]
  constructor
  · intro htext
    cases hnegative : n.negative with
    | true =>
        rw [hnegative] at htext
        have hwhole : n.whole = ['0'] := (List.cons.inj htext).2
        rw [hwhole]
        exact ⟨rfl, rfl⟩
    | false =>
        rw [hnegative] at htext
        have hwhole : n.whole = ['-', '0'] := htext
        have hsign := n.areWhole '-' (by simp [hwhole])
        exact absurd hsign (by decide)
  · rintro ⟨hnegative, hvalue⟩
    have hwhole := n.decimalDigits_whole
    rw [hvalue] at hwhole
    rw [hnegative, ← hwhole]
    rfl

theorem number?_of_isInteger (h : n.IsInteger) :
    n.number? = Number.ofWhole? n.negative (digitsValue 0 n.whole) := by
  simp [number?, h.1, h.2]

/-- An integer of 64 bits is kept, and its text is that of its numeral. -/
theorem exists_int_of_isInteger (h : n.IsInteger) (hzero : ¬ n.IsMinusZero)
    (hlower : -2 ^ 63 ≤ n.integer) (hupper : n.integer < 2 ^ 63) :
    ∃ found, n.number? = some found ∧ found.toScalar = .int (Int64.ofInt n.integer) ∧
      found.toScalar.text = String.ofList n.text := by
  rw [isMinusZero_iff h] at hzero
  have hrange : IsDocumentInteger n.integer := by
    constructor
    · omega
    · omega
  have hscalar : (Number.integer n.integer hrange).toScalar = .int (Int64.ofInt n.integer) :=
    if_pos hupper
  have htext : (toString n.integer).toList = n.text := by
    rw [text_of_isInteger h, integer, toList_toString_int hzero, decimalDigits_whole]
  refine ⟨.integer n.integer hrange, ?_, hscalar, ?_⟩
  · rw [number?_of_isInteger h]
    exact dif_pos ⟨hrange, hzero⟩
  · rw [hscalar, Scalar.text, Int64.toInt_ofInt_of_le hlower hupper, ← htext, String.ofList_toList]

/-- A numeral that is no integer of a document is a double. -/
theorem integer_or_real_of_isInteger (h : n.IsInteger) {found : Number}
    (hfound : n.number? = some found) :
    (∃ hrange, found = .integer n.integer hrange) ∨ ∃ value, found = .real value := by
  rw [number?_of_isInteger h] at hfound
  by_cases hkept : IsDocumentInteger n.integer ∧ ¬(n.negative = true ∧ digitsValue 0 n.whole = 0)
  · have hinteger : some (Number.integer n.integer hkept.1) = some found :=
      (dif_pos hkept).symm.trans hfound
    exact .inl ⟨hkept.1, (Option.some.inj hinteger).symm⟩
  · have hreal : Number.ofBinary64? (Binary64.ofDecimal n.negative (digitsValue 0 n.whole) 0) =
        some found := (dif_neg hkept).symm.trans hfound
    cases hnearest : Binary64.ofDecimal n.negative (digitsValue 0 n.whole) 0 with
    | finite value =>
        rw [hnearest] at hreal
        exact .inr ⟨value, (Option.some.inj hreal).symm⟩
    | _ =>
        rw [hnearest] at hreal
        cases hreal

/-- An integer of more bits is a double, if it is a number at all. -/
theorem exists_float_of_isInteger (h : n.IsInteger)
    (hout : ¬(-2 ^ 63 ≤ n.integer ∧ n.integer < 2 ^ 63)) {found : Number}
    (hfound : n.number? = some found) : ∃ x, found.toScalar = .float x := by
  rcases integer_or_real_of_isInteger h hfound with ⟨hrange, rfl⟩ | ⟨value, rfl⟩
  · -- among the integers of a document those of more bits are too large
    have hlarge : ¬ n.integer < 9223372036854775808 := by
      have hlower := hrange.1
      omega
    exact ⟨_, if_neg hlarge⟩
  · exact ⟨.finite value, rfl⟩

end Numeral

end Json

end RequestFilter
