import RequestFilter.Proofs.Json.Grammar
import RequestFilter.Proofs.Json.Outcome
import RequestFilter.Proofs.Numeral

/-!
# Reading numerals

The reader of numbers takes the text of any numeral and comes to the number that
it stands for, or to the fault that there is none. What it has read is the text
of a numeral.
-/

namespace RequestFilter

namespace Json

section Digits

/-- Further digits make a number no smaller. -/
theorem le_digitsValue (value : Nat) (ds : List Char) : value ≤ digitsValue value ds := by
  induction ds generalizing value with
  | nil => exact Nat.le_refl value
  | cons d rest ih =>
      have hnext := ih (10 * value + (d.toNat - '0'.toNat))
      have hcons : digitsValue value (d :: rest) =
          digitsValue (10 * value + (d.toNat - '0'.toNat)) rest := rfl
      omega

/-- The digits of an exponent overflow exactly when its value does. -/
theorem exponentOverflow?_eq_none_iff {value : Nat} (hvalue : value < 2147483648) (count : Nat)
    (ds : List Char) :
    exponentOverflow? value count ds = none ↔ digitsValue value ds < 2147483648 := by
  induction ds generalizing value count with
  | nil => simpa [exponentOverflow?, digitsValue] using hvalue
  | cons d rest ih =>
      have hcons : digitsValue value (d :: rest) =
          digitsValue (10 * value + (d.toNat - '0'.toNat)) rest := rfl
      have hle := le_digitsValue (10 * value + (d.toNat - '0'.toNat)) rest
      rw [hcons, exponentOverflow?]
      by_cases hover : 2147483648 ≤ 10 * value + (d.toNat - '0'.toNat)
      · simp only [if_pos hover, reduceCtorEq, false_iff]
        omega
      · simp only [if_neg hover]
        exact ih (by omega) _

end Digits

/-- What can stand behind a numeral without going on with it. -/
def EndsNumeral (rest : List Char) : Prop :=
  ∀ c ∈ rest.head?, c.isDigit = false ∧ c ≠ '.' ∧ c ≠ 'e' ∧ c ≠ 'E'

namespace Reader

variable {rest : List Char}

theorem goes_peek (cs : List Char) : Goes peek cs cs.head? cs :=
  fun place => ⟨place, rfl⟩

/-- Digits are read up to where they end. -/
theorem goes_digits {ds : List Char} (hds : AreDigits ds)
    (hrest : ∀ c ∈ rest.head?, c.isDigit = false) : Goes digits (ds ++ rest) ds rest := by
  intro place
  obtain ⟨place', hplace'⟩ := Cursor.exists_skipWhile_eq hds hrest place
  refine ⟨place', ?_⟩
  rw [digits, takeWhile_isDigit_append hds hrest, hplace']

/-- A number beyond all doubles is a fault; any other one is the answer. -/
theorem comes_inRange (found : Option Number) (cs : List Char) :
    Comes (inRange found) cs (numberOrFault found) cs := by
  cases found with
  | some n => exact Goes.pure n cs
  | none => exact fun place => ⟨place, rfl⟩

/-- What a reader does with the place that it starts from does not change what it comes to. -/
theorem comes_get {α : Type} {next : Cursor → Reader α} {cs : List Char}
    {outcome : Except Fault α} (hnext : ∀ cursor, Comes (next cursor) cs outcome rest) :
    Comes (get >>= next) cs outcome rest := by
  cases outcome with
  | ok a => exact fun place => hnext ⟨cs, place⟩ place
  | error fault => exact fun place => hnext ⟨cs, place⟩ place

/-- The digits of an exponent, behind its sign. -/
def exponentDigits (negative : Bool) : Reader (Bool × List Char) := do
  match ← peek with
  | none => failHere .endInValue
  | some c =>
      if c.isDigit then pure (negative, ← digits)
      else failNext .invalidNumber

/-- The sign of an exponent is read first. -/
theorem exponent_eq : exponent = (do
    match ← peek with
    | some '+' => skip; exponentDigits false
    | some '-' => skip; exponentDigits true
    | _ => exponentDigits false) :=
  rfl

theorem exists_digit_cons (e : Exponent) (rest : List Char) :
    ∃ d ds, e.digits ++ rest = d :: ds ∧ d.isDigit = true := by
  obtain ⟨d, ds, hdigits⟩ := List.exists_cons_of_ne_nil e.ne_nil
  refine ⟨d, ds ++ rest, by rw [hdigits, List.cons_append], e.areDigits d ?_⟩
  rw [hdigits]
  exact List.mem_cons_self

/-- The digits of an exponent, of which there is one at least, are read to the end. -/
theorem goes_exponentDigits (e : Exponent) (negative : Bool) (hrest : EndsNumeral rest) :
    Goes (exponentDigits negative) (e.digits ++ rest) (negative, e.digits) rest := by
  have hdigits := goes_digits e.areDigits fun c hc => (hrest c hc).1
  obtain ⟨d, others, hcons, hd⟩ := exists_digit_cons e rest
  refine (goes_peek _).bind ?_
  rw [hcons] at hdigits ⊢
  simp only [List.head?_cons, hd, if_true]
  exact hdigits.bind (.pure _ rest)

/-- An exponent is read with its sign. -/
theorem goes_exponent (e : Exponent) (hrest : EndsNumeral rest) :
    Goes exponent (e.sign ++ (e.digits ++ rest)) (e.isNegative, e.digits) rest := by
  have hdigits := fun negative => goes_exponentDigits e negative hrest
  rw [exponent_eq]
  rcases e.isSign with hsign | hsign | hsign
  · have hnegative : e.isNegative = false := by simp [Exponent.isNegative, hsign]
    rw [hsign, hnegative, List.nil_append]
    obtain ⟨d, others, hcons, hd⟩ := exists_digit_cons e rest
    have hnone := hdigits false
    refine (goes_peek _).bind ?_
    rw [hcons] at hnone ⊢
    -- a digit is no sign
    split
    next heq =>
      cases heq
      contradiction
    next heq =>
      cases heq
      contradiction
    next => exact hnone
  · have hnegative : e.isNegative = false := by simp [Exponent.isNegative, hsign]
    rw [hsign, hnegative]
    exact (goes_peek _).bind ((goes_skip '+' _).bind (hdigits false))
  · have hnegative : e.isNegative = true := by simp [Exponent.isNegative, hsign]
    rw [hsign, hnegative]
    exact (goes_peek _).bind ((goes_skip '-' _).bind (hdigits true))

/-- The number is the nearest one to the significand with its power, unless the exponent itself is
beyond counting. -/
theorem comes_scaled (negative : Bool) (significand : Nat) (power : Int) (e : Exponent)
    (hrest : EndsNumeral rest) :
    Comes (scaled negative significand power) (e.sign ++ (e.digits ++ rest))
      (numberOrFault (
        if digitsValue 0 e.digits < 2147483648 then
          Number.ofBinary64? (Binary64.ofDecimal negative significand (power + e.power))
        else if significand ≠ 0 ∧ e.isNegative = false then none
        else Number.ofBinary64? (Binary64.zero negative))) rest := by
  refine comes_get fun before => ?_
  refine (goes_exponent e hrest).comes ?_
  have hoverflow : exponentOverflow? 0 0 e.digits = none ↔ digitsValue 0 e.digits < 2147483648 :=
    exponentOverflow?_eq_none_iff (by decide) 0 e.digits
  cases hcount : exponentOverflow? 0 0 e.digits with
  | none =>
      rw [if_pos (hoverflow.mp hcount)]
      have hpower : (if e.isNegative = true then power - (digitsValue 0 e.digits : Int)
          else power + digitsValue 0 e.digits) = power + e.power := by
        unfold Exponent.power
        split <;> omega
      simp only [hcount, hpower]
      exact comes_inRange _ _
  | some count =>
      have hlarge : ¬ digitsValue 0 e.digits < 2147483648 := by
        rw [← hoverflow, hcount]
        exact Option.some_ne_none count
      rw [if_neg hlarge]
      simp only [hcount]
      by_cases hgrows : significand ≠ 0 ∧ e.isNegative = false
      · rw [if_pos hgrows, if_pos hgrows]
        exact fun place => ⟨_, rfl⟩
      · rw [if_neg hgrows, if_neg hgrows]
        exact comes_inRange _ _

/-- The text of an exponent is its letter, its sign and its digits. -/
theorem exponentText_eq {n : Numeral} {e : Exponent} (hexponent : n.exponent = some e) :
    n.exponentText = e.letter :: (e.sign ++ e.digits) := by
  rw [Numeral.exponentText, hexponent]
  rfl

/-- Behind the digits of a numeral, its exponent decides what it comes to. -/
theorem comes_skip_scaled {n : Numeral} {e : Exponent} (hexponent : n.exponent = some e)
    (hrest : EndsNumeral rest) :
    Comes (skip >>= fun _ => scaled n.negative n.significand (-(n.fraction.length : Int)))
      (n.exponentText ++ rest) (numberOrFault n.number?) rest := by
  have hscaled := comes_scaled n.negative n.significand (-(n.fraction.length : Int)) e hrest
  rw [exponentText_eq hexponent, Numeral.number?, hexponent, List.cons_append, List.append_assoc]
  exact (goes_skip e.letter _).comes hscaled

/-- Behind the fraction there is no further digit and no further point. -/
theorem head?_exponentText (n : Numeral) (hrest : EndsNumeral rest) :
    ∀ c ∈ (n.exponentText ++ rest).head?, c.isDigit = false ∧ c ≠ '.' := by
  intro c hc
  cases hexponent : n.exponent with
  | none =>
      rw [Numeral.exponentText, hexponent] at hc
      exact ⟨(hrest c hc).1, (hrest c hc).2.1⟩
  | some e =>
      rw [exponentText_eq hexponent] at hc
      cases hc
      rcases e.isLetter with hletter | hletter
      · rw [hletter]
        decide
      · rw [hletter]
        decide

/-- Behind the whole part there is no further digit. -/
theorem head?_fractionText (n : Numeral) (hrest : EndsNumeral rest) :
    ∀ c ∈ (n.fractionText ++ (n.exponentText ++ rest)).head?, c.isDigit = false := by
  intro c hc
  by_cases hfraction : n.fraction = []
  · have htext : n.fractionText = [] := if_pos hfraction
    rw [htext] at hc
    exact (head?_exponentText n hrest c hc).1
  · have htext : n.fractionText = '.' :: n.fraction := if_neg hfraction
    rw [htext] at hc
    cases hc
    decide

/-- The digits behind a point and what follows them. -/
def fractionDigits (negative : Bool) (whole : List Char) : Reader Number := do
  let fraction ← digits
  if fraction.isEmpty then
    match ← peek with
    | none => failHere .endInValue
    | some _ => failNext .invalidNumber
  else
    let significand := digitsValue 0 (whole ++ fraction)
    let power : Int := -(fraction.length : Int)
    match ← peek with
    | some 'e' | some 'E' => skip; scaled negative significand power
    | _ => inRange (Number.ofBinary64? (Binary64.ofDecimal negative significand power))

/-- Behind the whole part, the next character tells what the rest of a number is. -/
theorem numberTail_eq (negative : Bool) (whole : List Char) : numberTail negative whole = (do
    match ← peek with
    | some '.' => skip; fractionDigits negative whole
    | some 'e' | some 'E' => skip; scaled negative (digitsValue 0 whole) 0
    | _ => inRange (Number.ofWhole? negative (digitsValue 0 whole))) :=
  rfl

/-- A number with a fraction comes to what its numeral stands for. -/
theorem comes_fractionDigits {n : Numeral} (hfraction : n.fraction ≠ [])
    (hrest : EndsNumeral rest) :
    Comes (fractionDigits n.negative n.whole) (n.fraction ++ (n.exponentText ++ rest))
      (numberOrFault n.number?) rest := by
  have hplain : n.fraction.isEmpty = false := by simpa using hfraction
  have hdigits := goes_digits n.areFraction fun c hc => (head?_exponentText n hrest c hc).1
  refine hdigits.comes ?_
  simp only [hplain, Bool.false_eq_true, if_false]
  refine (goes_peek _).comes ?_
  cases hexponent : n.exponent with
  | none =>
      have hnumber : n.number? = Number.ofBinary64? (Binary64.ofDecimal n.negative n.significand
          (-(n.fraction.length : Int))) := by
        simp [Numeral.number?, hfraction, hexponent]
      rw [Numeral.exponentText, hexponent, hnumber]
      split
      next heq => exact absurd rfl (hrest _ heq).2.2.1
      next heq => exact absurd rfl (hrest _ heq).2.2.2
      next => exact comes_inRange _ _
  | some e =>
      have hscaled := comes_skip_scaled hexponent hrest
      rw [exponentText_eq hexponent] at hscaled ⊢
      rcases e.isLetter with hletter | hletter
      · rw [hletter] at hscaled ⊢
        exact hscaled
      · rw [hletter] at hscaled ⊢
        exact hscaled

/-- A fraction with an exponent behind it, or without one. -/
theorem comes_numberTail (n : Numeral) (hrest : EndsNumeral rest) :
    Comes (numberTail n.negative n.whole) (n.fractionText ++ (n.exponentText ++ rest))
      (numberOrFault n.number?) rest := by
  rw [numberTail_eq]
  by_cases hfraction : n.fraction = []
  · have hsignificand : n.significand = digitsValue 0 n.whole := by
      rw [Numeral.significand, hfraction, List.append_nil]
    have htext : n.fractionText = [] := if_pos hfraction
    rw [htext, List.nil_append]
    refine (goes_peek _).comes ?_
    cases hexponent : n.exponent with
    | none =>
        have hnumber : n.number? = Number.ofWhole? n.negative (digitsValue 0 n.whole) := by
          simp [Numeral.number?, hfraction, hexponent]
        rw [Numeral.exponentText, hexponent, hnumber]
        -- nothing behind the digits goes on with them
        split
        next heq => exact absurd rfl (hrest _ heq).2.1
        next heq => exact absurd rfl (hrest _ heq).2.2.1
        next heq => exact absurd rfl (hrest _ heq).2.2.2
        next => exact comes_inRange _ _
    | some e =>
        have hscaled := comes_skip_scaled hexponent hrest
        rw [hsignificand, hfraction] at hscaled
        rw [exponentText_eq hexponent] at hscaled ⊢
        rcases e.isLetter with hletter | hletter
        · rw [hletter] at hscaled ⊢
          exact hscaled
        · rw [hletter] at hscaled ⊢
          exact hscaled
  · have htext : n.fractionText = '.' :: n.fraction := if_neg hfraction
    rw [htext, List.cons_append]
    refine (goes_peek _).comes ?_
    exact (goes_skip '.' _).comes (comes_fractionDigits hfraction hrest)

/-- The text of a numeral behind its sign comes to what the numeral stands for. -/
theorem comes_number (n : Numeral) (hrest : EndsNumeral rest) :
    Comes (number n.negative) (n.magnitudeText ++ rest) (numberOrFault n.number?) rest := by
  have htail := comes_numberTail n hrest
  have hbehind := head?_fractionText n hrest
  rw [Numeral.magnitudeText, List.append_assoc, List.append_assoc]
  unfold number
  refine (goes_peek _).comes ?_
  rcases n.isPlain with hwhole | ⟨first, others, hwhole, hfirst⟩
  · rw [hwhole] at htail ⊢
    simp only [List.cons_append, List.nil_append, List.head?_cons, if_true]
    refine (goes_skip '0' _).comes ?_
    refine (goes_peek _).comes ?_
    split
    next d hd =>
      rw [if_neg (Bool.eq_false_iff.mp (hbehind d hd))]
      exact htail
    next => exact htail
  · have hdigit : first.isDigit = true := n.areWhole first (by simp [hwhole])
    have hdigits := goes_digits n.areWhole hbehind
    rw [hwhole] at htail hdigits ⊢
    simp only [List.cons_append, List.head?_cons, hfirst, hdigit, if_true, if_false]
    exact hdigits.comes htail

end Reader

namespace Went

open Reader

variable {cs rest : List Char} {n : Number}

theorem of_inRange {found : Option Number} (h : Went (inRange found) cs n rest) : cs = rest := by
  cases found with
  | none => exact absurd h not_failHere
  | some other => exact (of_pure h).2.symm

/-- What was read as the digits of an exponent are digits, and there is one at least. -/
theorem of_exponentDigits {negative : Bool} {answer : Bool × List Char}
    (h : Went (exponentDigits negative) cs answer rest) :
    ∃ ds, AreDigits ds ∧ ds ≠ [] ∧ cs = ds ++ rest := by
  replace h := of_peek h
  cases cs with
  | nil => exact absurd h not_failHere
  | cons c others =>
      by_cases hc : c.isDigit = true
      · simp only [List.head?_cons, hc, if_true] at h
        obtain ⟨ds, middle, hdigits, hpure⟩ := of_bind h
        obtain ⟨htext, hall, hend⟩ := of_digits hdigits
        rw [← (of_pure hpure).2] at htext hend
        refine ⟨ds, hall, ?_, htext⟩
        rintro rfl
        rw [hend c (by rw [← List.nil_append rest, ← htext]; rfl)] at hc
        cases hc
      · simp only [List.head?_cons, hc] at h
        exact absurd h not_failNext

/-- What was read as an exponent is the text of one. -/
theorem of_exponent {letter : Char} (hletter : letter = 'e' ∨ letter = 'E')
    {answer : Bool × List Char} (h : Went exponent cs answer rest) :
    ∃ e : Exponent, letter :: cs = e.text ++ rest := by
  have hread : ∃ sign ds, (sign = [] ∨ sign = ['+'] ∨ sign = ['-']) ∧ AreDigits ds ∧
      ds ≠ [] ∧ cs = sign ++ (ds ++ rest) := by
    rw [exponent_eq] at h
    replace h := of_peek h
    split at h
    next heq =>
      obtain ⟨others, rfl⟩ := List.head?_eq_some_iff.mp heq
      obtain ⟨ds, hall, hne, rfl⟩ := of_exponentDigits (of_skip h)
      exact ⟨['+'], ds, .inr (.inl rfl), hall, hne, rfl⟩
    next heq =>
      obtain ⟨others, rfl⟩ := List.head?_eq_some_iff.mp heq
      obtain ⟨ds, hall, hne, rfl⟩ := of_exponentDigits (of_skip h)
      exact ⟨['-'], ds, .inr (.inr rfl), hall, hne, rfl⟩
    next =>
      obtain ⟨ds, hall, hne, rfl⟩ := of_exponentDigits h
      exact ⟨[], ds, .inl rfl, hall, hne, rfl⟩
  obtain ⟨sign, ds, hsign, hall, hne, rfl⟩ := hread
  refine ⟨⟨letter, sign, ds, hletter, hsign, hall, hne⟩, ?_⟩
  simp [Exponent.text]

/-- What was read as a number with an exponent has the text of one. -/
theorem of_scaled {letter : Char} (hletter : letter = 'e' ∨ letter = 'E') {negative : Bool}
    {significand : Nat} {power : Int} (h : Went (scaled negative significand power) cs n rest) :
    ∃ e : Exponent, letter :: cs = e.text ++ rest := by
  obtain ⟨before, h⟩ := of_get h
  obtain ⟨⟨down, ds⟩, middle, hexponent, h⟩ := of_bind h
  have hmiddle : middle = rest := by
    simp only at h
    split at h
    next => exact of_inRange h
    next =>
      split at h
      next => exact absurd h not_throw
      next => exact of_inRange h
  rw [hmiddle] at hexponent
  exact of_exponent hletter hexponent

section Parts

variable {negative : Bool} {whole : List Char} (hwhole : AreDigits whole)
  (hplain : whole = ['0'] ∨ ∃ first others, whole = first :: others ∧ first ≠ '0')

include hwhole hplain

theorem exists_magnitudeText_eq (negative : Bool) {fraction : List Char}
    (hfraction : AreDigits fraction) (e : Option Exponent) :
    ∃ numeral : Numeral, numeral.negative = negative ∧ numeral.magnitudeText =
      whole ++ ((if fraction = [] then [] else '.' :: fraction) ++
        match e with
        | none => []
        | some exponent => exponent.text) :=
  ⟨⟨negative, whole, fraction, e, hwhole, hplain, hfraction⟩, rfl, rfl⟩

/-- What was read from the point on is the rest of a numeral. -/
theorem of_fractionDigits (h : Went (fractionDigits negative whole) cs n rest) :
    ∃ numeral : Numeral, numeral.negative = negative ∧
      whole ++ '.' :: cs = numeral.magnitudeText ++ rest := by
  obtain ⟨fraction, middle, hdigits, htail⟩ := of_bind h
  obtain ⟨rfl, hfraction, -⟩ := of_digits hdigits
  have hnumeral := exists_magnitudeText_eq hwhole hplain negative hfraction
  split at htail
  next =>
    replace htail := of_peek htail
    split at htail
    next => exact absurd htail not_failHere
    next => exact absurd htail not_failNext
  next hempty =>
    have hne : fraction ≠ [] := by simpa using hempty
    replace htail := of_peek htail
    split at htail
    next heq =>
      obtain ⟨behind, rfl⟩ := List.head?_eq_some_iff.mp heq
      obtain ⟨e, he⟩ := of_scaled (.inl rfl) (of_skip htail)
      obtain ⟨numeral, hnegative, htext⟩ := hnumeral (some e)
      exact ⟨numeral, hnegative, by simp [htext, he, hne]⟩
    next heq =>
      obtain ⟨behind, rfl⟩ := List.head?_eq_some_iff.mp heq
      obtain ⟨e, he⟩ := of_scaled (.inr rfl) (of_skip htail)
      obtain ⟨numeral, hnegative, htext⟩ := hnumeral (some e)
      exact ⟨numeral, hnegative, by simp [htext, he, hne]⟩
    next =>
      obtain ⟨numeral, hnegative, htext⟩ := hnumeral none
      exact ⟨numeral, hnegative, by simp [htext, of_inRange htail, hne]⟩

/-- What was read behind a whole part makes a numeral with it. -/
theorem of_numberTail (h : Went (numberTail negative whole) cs n rest) :
    ∃ numeral : Numeral, numeral.negative = negative ∧
      whole ++ cs = numeral.magnitudeText ++ rest := by
  have hnumeral := exists_magnitudeText_eq hwhole hplain negative
    (List.forall_mem_nil _)
  rw [numberTail_eq] at h
  replace h := of_peek h
  split at h
  next heq =>
    obtain ⟨others, rfl⟩ := List.head?_eq_some_iff.mp heq
    exact of_fractionDigits hwhole hplain (of_skip h)
  next heq =>
    obtain ⟨others, rfl⟩ := List.head?_eq_some_iff.mp heq
    obtain ⟨e, he⟩ := of_scaled (.inl rfl) (of_skip h)
    obtain ⟨numeral, hnegative, htext⟩ := hnumeral (some e)
    exact ⟨numeral, hnegative, by simp [htext, he]⟩
  next heq =>
    obtain ⟨others, rfl⟩ := List.head?_eq_some_iff.mp heq
    obtain ⟨e, he⟩ := of_scaled (.inr rfl) (of_skip h)
    obtain ⟨numeral, hnegative, htext⟩ := hnumeral (some e)
    exact ⟨numeral, hnegative, by simp [htext, he]⟩
  next =>
    obtain ⟨numeral, hnegative, htext⟩ := hnumeral none
    exact ⟨numeral, hnegative, by simp [htext, of_inRange h]⟩

end Parts

/-- What the reader of a number has read is a numeral behind its sign. -/
theorem of_number {negative : Bool} (h : Went (Reader.number negative) cs n rest) :
    ∃ numeral : Numeral, numeral.negative = negative ∧ cs = numeral.magnitudeText ++ rest := by
  replace h := of_peek h
  cases cs with
  | nil => exact absurd h not_failHere
  | cons c others =>
      simp only [List.head?_cons] at h
      split at h
      next hzero =>
        subst hzero
        have hwhole : AreDigits ['0'] := by decide
        replace h := of_peek (of_skip h)
        split at h
        next =>
          split at h
          next => exact absurd h not_failNext
          next => exact of_numberTail hwhole (.inl rfl) h
        next => exact of_numberTail hwhole (.inl rfl) h
      next hzero =>
        split at h
        next hdigit =>
          obtain ⟨whole, middle, hdigits, htail⟩ := of_bind h
          obtain ⟨htext, hwhole, hend⟩ := of_digits hdigits
          cases whole with
          | nil =>
              rw [List.nil_append] at htext
              rw [hend c (by rw [← htext]; rfl)] at hdigit
              cases hdigit
          | cons first ds =>
              rw [(List.cons.inj htext).1] at hzero
              rw [htext]
              exact of_numberTail hwhole (.inr ⟨first, ds, rfl, hzero⟩) htail
        next => exact absurd h not_failNext

end Went

end Json

end RequestFilter
