import RequestFilter.Scalar

/-!
# Numerals

The text of every integer and of every finite double is a decimal numeral
without an exponent. The other texts of scalars that are no strings are five
words.
-/

namespace RequestFilter

/-- A numeral: digits with at most one inner point and at most one minus sign in front. -/
def IsNumeral (cs : List Char) : Prop :=
  ∃ negative whole fraction,
    cs = signed negative (whole ++ fraction) ∧
      whole ≠ [] ∧ (∀ c ∈ whole, c.isDigit = true) ∧
      (fraction = [] ∨ ∃ digits, digits ≠ [] ∧ (∀ c ∈ digits, c.isDigit = true) ∧
        fraction = '.' :: digits)

/-- A numeral begins with a digit or a minus sign. -/
theorem IsNumeral.exists_head {cs : List Char} (h : IsNumeral cs) :
    ∃ c, cs.head? = some c ∧ (c.isDigit = true ∨ c = '-') := by
  obtain ⟨negative, whole, fraction, rfl, hne, hwhole, _⟩ := h
  cases negative with
  | true => exact ⟨'-', rfl, Or.inr rfl⟩
  | false =>
      cases whole with
      | nil => contradiction
      | cons c rest => exact ⟨c, rfl, Or.inl (hwhole c List.mem_cons_self)⟩

theorem IsNumeral.isDigit_or_sign {cs : List Char} (h : IsNumeral cs) :
    ∀ c ∈ cs, c.isDigit = true ∨ c = '.' ∨ c = '-' := by
  obtain ⟨negative, whole, fraction, rfl, _, hwhole, hfraction⟩ := h
  have hdigits : ∀ c ∈ whole ++ fraction, c.isDigit = true ∨ c = '.' ∨ c = '-' := by
    intro c hc
    rcases List.mem_append.mp hc with hc | hc
    · exact Or.inl (hwhole c hc)
    · rcases hfraction with rfl | ⟨digits, _, hdigits, rfl⟩
      · cases hc
      · rcases List.mem_cons.mp hc with rfl | hc
        · exact Or.inr (Or.inl rfl)
        · exact Or.inl (hdigits c hc)
  cases negative with
  | false => exact hdigits
  | true => exact List.forall_mem_cons.mpr ⟨Or.inr (Or.inr rfl), hdigits⟩

/-- The words that stand for scalars: truth values and the doubles that are no numbers. -/
def scalarWords : List String := ["true", "false", "inf", "-inf", "NaN"]

theorem decimalDigits_ne_nil (n : Nat) : decimalDigits n ≠ [] :=
  Nat.toDigits_ne_nil

theorem isDigit_of_mem_decimalDigits {n : Nat} {c : Char} (h : c ∈ decimalDigits n) :
    c.isDigit = true :=
  Nat.isDigit_of_mem_toDigits (by omega) (by omega) h

/-- The digits that a text begins with end where another character stands. -/
theorem takeWhile_isDigit_append {digits rest : List Char}
    (hdigits : ∀ c ∈ digits, c.isDigit = true) (hrest : ∀ c ∈ rest.head?, c.isDigit = false) :
    (digits ++ rest).takeWhile Char.isDigit = digits := by
  rw [List.takeWhile_append_of_pos hdigits]
  cases rest with
  | nil => simp
  | cons c others => simp [hrest c rfl]

/-- The digits before the point are never missing. -/
theorem Decimal.positional_digits (d : Decimal) :
    d.positional.1 ≠ [] ∧ (∀ c ∈ d.positional.1, c.isDigit = true) ∧
      ∀ c ∈ d.positional.2, c.isDigit = true := by
  have hne := decimalDigits_ne_nil d.digits
  have hdigit : ∀ c ∈ decimalDigits d.digits, c.isDigit = true :=
    fun c hc => isDigit_of_mem_decimalDigits hc
  have hzeros : ∀ n, ∀ c ∈ List.replicate n '0', c.isDigit = true := by
    intro n c hc
    rw [List.eq_of_mem_replicate hc]
    rfl
  simp only [Decimal.positional]
  -- the point stands behind the digits, between them or in front of them
  split
  · refine ⟨by simp [hne], ?_, by simp⟩
    intro c hc
    exact (List.mem_append.mp hc).elim (hdigit c) (hzeros _ c)
  · split
    next hwhole =>
      refine ⟨?_, fun c hc => hdigit c (List.mem_of_mem_take hc),
        fun c hc => hdigit c (List.mem_of_mem_drop hc)⟩
      rw [Ne, List.take_eq_nil_iff]
      exact fun h => h.elim (by omega) hne
    next =>
      refine ⟨by simp, by simp, ?_⟩
      intro c hc
      exact (List.mem_append.mp hc).elim (hzeros _ c) (hdigit c)

theorem isNumeral_signed_plain (negative : Bool) (d : Decimal) :
    IsNumeral (signed negative d.plain) := by
  obtain ⟨hne, hwhole, hfraction⟩ := d.positional_digits
  unfold Decimal.plain
  split
  next whole hpositional =>
    rw [hpositional] at hne hwhole
    exact ⟨negative, whole, [], by simp, hne, hwhole, Or.inl rfl⟩
  next whole fraction hempty hpositional =>
    rw [hpositional] at hne hwhole hfraction
    refine ⟨negative, whole, '.' :: fraction, rfl, hne, hwhole,
      Or.inr ⟨fraction, ?_, hfraction, rfl⟩⟩
    rintro rfl
    exact hempty rfl

/-- The text of an integer has a sign in front exactly when the integer is below zero. -/
theorem toList_toString_int {negative : Bool} {magnitude : Nat}
    (h : ¬(negative = true ∧ magnitude = 0)) :
    (toString (if negative then -(magnitude : Int) else magnitude)).toList =
      signed negative (decimalDigits magnitude) := by
  cases negative with
  | false => exact Nat.toList_repr
  | true =>
      obtain ⟨less, rfl⟩ := Nat.exists_eq_succ_of_ne_zero fun hzero => h ⟨rfl, hzero⟩
      change ("-" ++ (less + 1).repr).toList = _
      rw [String.toList_append, Nat.toList_repr]
      rfl

theorem isNumeral_toString (n : Int) : IsNumeral (toString n).toList := by
  have hnat : ∀ negative m, IsNumeral (signed negative (decimalDigits m)) := by
    intro negative m
    exact ⟨negative, decimalDigits m, [], by simp, decimalDigits_ne_nil m,
      fun c hc => isDigit_of_mem_decimalDigits hc, Or.inl rfl⟩
  cases n with
  | ofNat m =>
      have hsign : ¬(false = true ∧ m = 0) := by simp
      have htext : (toString (m : Int)).toList = _ := toList_toString_int hsign
      exact htext ▸ hnat false m
  | negSucc m =>
      have hsign : ¬(true = true ∧ m + 1 = 0) := by simp
      have htext : (toString (Int.negSucc m)).toList = _ := toList_toString_int hsign
      exact htext ▸ hnat true (m + 1)

theorem Finite64.isNumeral_text (x : Finite64) : IsNumeral (Binary64.finite x).text.toList := by
  rw [Binary64.text, String.toList_ofList]
  exact isNumeral_signed_plain x.negative (x.shortest .away)

/-- A scalar that is no string is written as a numeral or as one of five words. -/
theorem Scalar.isNumeral_or_mem_scalarWords {value : Scalar} (h : value.kind ≠ .string) :
    IsNumeral value.text.toList ∨ value.text ∈ scalarWords := by
  cases value with
  | bool b => cases b <;> exact Or.inr (by decide)
  | int n => exact Or.inl (isNumeral_toString n.toInt)
  | float x =>
      cases x with
      | finite y => exact Or.inl y.isNumeral_text
      | infinite negative => cases negative <;> exact Or.inr (by decide)
      | nan => exact Or.inr (by decide)
  | string s => contradiction

/-- Only a truth value has its text. -/
theorem Scalar.eq_bool_of_text_eq {value : Scalar} {b : Bool} (hkind : value.kind ≠ .string)
    (htext : value.text = (Scalar.bool b).text) : value = .bool b := by
  have hnumeral : ¬ IsNumeral value.text.toList := by
    intro h
    obtain ⟨c, hc, hdigit⟩ := h.exists_head
    rw [htext] at hc
    cases b <;> cases hc <;> revert hdigit <;> decide
  cases value with
  | bool b' => cases b <;> cases b' <;> first | rfl | exact absurd htext (by decide)
  | int n => exact absurd (isNumeral_toString n.toInt) hnumeral
  | float x =>
      cases x with
      | finite y => exact absurd y.isNumeral_text hnumeral
      | infinite negative => cases b <;> cases negative <;> exact absurd htext (by decide)
      | nan => cases b <;> exact absurd htext (by decide)
  | string s => contradiction

end RequestFilter
