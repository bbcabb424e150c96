import RequestFilter.Proofs.Json.Answers

/-!
# Passing over documents

A document that is only passed over is left behind as a whole, however it is
written, however deep it is and whatever its numerals stand for.
-/

namespace RequestFilter

namespace Json

section Strings

/-- A character is passed over, however it is spelled. -/
theorem skipText_charSpelling {c : Char} {written : List Char} (h : CharSpelling c written)
    (cs : List Char) (place : Place) :
    ∃ place', skipText (written ++ cs) place = skipText cs place' := by
  cases h with
  | escape h => exact skipText_escape h cs place
  | pair hfirst hleading hsecond htrailing hchar =>
      -- the two units of a pair are passed over one after the other
      let behind := (place.after '\\').after 'u'
      let second := ((⟨behind.line, behind.column + 4⟩ : Place).after '\\').after 'u'
      refine ⟨⟨second.line, second.column + 4⟩, ?_⟩
      simp only [List.cons_append, List.nil_append, skipText, Char.reduceEq, if_true, if_false,
        hfirst, hsecond, behind, second]

theorem exists_skipText_of_textSpelling {cs inside : List Char} (h : TextSpelling cs inside)
    (rest : List Char) (place : Place) :
    ∃ place', skipText (inside ++ '"' :: rest) place = .ok ⟨rest, place'⟩ := by
  induction h generalizing place with
  | nil => exact ⟨place.after '"', by simp [skipText]⟩
  | @cons c written cs others hc _ ih =>
      obtain ⟨middle, hmiddle⟩ := skipText_charSpelling hc (others ++ '"' :: rest) place
      obtain ⟨place', hplace'⟩ := ih middle
      exact ⟨place', by rw [List.append_assoc, hmiddle, hplace']⟩

end Strings

namespace Reader

open skipNumber (skipFraction skipExponent)

variable {rest : List Char}

/-- A string is passed over up to the quote that ends it. -/
theorem goes_passText_of_textSpelling {cs inside : List Char} (h : TextSpelling cs inside)
    (rest : List Char) : Goes passText (inside ++ '"' :: rest) () rest := by
  intro place
  obtain ⟨place', hplace'⟩ := exists_skipText_of_textSpelling h rest place
  refine ⟨place', ?_⟩
  rw [passText, hplace']
  rfl

/-- The digits of an exponent, behind its sign. -/
theorem goes_digits_exponent (e : Exponent) (hrest : EndsNumeral rest) :
    Goes (do
      let power ← digits
      if power.isEmpty then failNext .invalidNumber else pure ()) (e.digits ++ rest) () rest := by
  have hplain : e.digits.isEmpty = false := by simpa using e.ne_nil
  refine (goes_digits e.areDigits fun c hc => (hrest c hc).1).bind ?_
  rw [hplain]
  exact .pure () rest

/-- An exponent is passed over, if a numeral has one. -/
theorem goes_skipExponent {n : Numeral} {e : Exponent} (hexponent : n.exponent = some e)
    (hrest : EndsNumeral rest) : Goes skipExponent (n.exponentText ++ rest) () rest := by
  have hdigits := goes_digits_exponent e hrest
  rw [exponentText_eq hexponent, List.cons_append, List.append_assoc]
  unfold skipExponent
  refine (goes_skip e.letter _).bind ?_
  refine (goes_peek _).bind ?_
  rcases e.isSign with hsign | hsign | hsign
  · obtain ⟨d, others, hcons, hd⟩ := exists_digit_cons e rest
    rw [hsign, List.nil_append]
    rw [hcons] at hdigits ⊢
    -- a digit is no sign
    split
    next heq =>
      cases heq
      contradiction
    next heq =>
      cases heq
      contradiction
    next => exact hdigits
  · rw [hsign]
    exact (goes_skip '+' _).bind hdigits
  · rw [hsign]
    exact (goes_skip '-' _).bind hdigits

/-- What stands behind the digits of a numeral. -/
theorem goes_exponent_or_end (n : Numeral) (hrest : EndsNumeral rest) :
    Goes (do
      match ← peek with
      | some 'e' | some 'E' => skipExponent
      | _ => pure ()) (n.exponentText ++ rest) () rest := by
  refine (goes_peek _).bind ?_
  cases hexponent : n.exponent with
  | none =>
      rw [Numeral.exponentText, hexponent]
      split
      next heq => exact absurd rfl (hrest _ heq).2.2.1
      next heq => exact absurd rfl (hrest _ heq).2.2.2
      next => exact .pure () rest
  | some e =>
      have hskip := goes_skipExponent hexponent hrest
      rw [exponentText_eq hexponent] at hskip ⊢
      rcases e.isLetter with hletter | hletter
      · rw [hletter] at hskip ⊢
        exact hskip
      · rw [hletter] at hskip ⊢
        exact hskip

/-- A fraction is passed over, with the exponent behind it. -/
theorem goes_skipFraction (n : Numeral) (hrest : EndsNumeral rest) :
    Goes skipFraction (n.fractionText ++ (n.exponentText ++ rest)) () rest := by
  have hbehind := goes_exponent_or_end n hrest
  by_cases hfraction : n.fraction = []
  · have htext : n.fractionText = [] := if_pos hfraction
    have hhead := head?_exponentText n hrest
    have hmatch : Goes (match (n.exponentText ++ rest).head? with
        | some 'e' | some 'E' => skipExponent
        | _ => pure ()) (n.exponentText ++ rest) () rest := hbehind
    rw [htext, List.nil_append]
    unfold skipFraction
    refine (goes_peek _).bind ?_
    -- no point stands here, so the readers do the same
    split
    next heq => exact absurd rfl (hhead _ heq).2
    next heq => simpa only [heq] using hmatch
    next heq => simpa only [heq] using hmatch
    next hpoint hlower hupper => simpa only [hlower, hupper] using hmatch
  · have htext : n.fractionText = '.' :: n.fraction := if_neg hfraction
    have hplain : n.fraction.isEmpty = false := by simpa using hfraction
    rw [htext, List.cons_append]
    unfold skipFraction
    refine (goes_peek _).bind ?_
    refine (goes_skip '.' _).bind ?_
    refine (goes_digits n.areFraction fun c hc => (head?_exponentText n hrest c hc).1).bind ?_
    simp only [hplain, Bool.false_eq_true, if_false]
    exact hbehind

/-- The text of a numeral behind its sign is passed over. -/
theorem goes_skipNumber (n : Numeral) (hrest : EndsNumeral rest) :
    Goes skipNumber (n.magnitudeText ++ rest) () rest := by
  have htail := goes_skipFraction n hrest
  have hbehind := head?_fractionText n hrest
  rw [Numeral.magnitudeText, List.append_assoc, List.append_assoc]
  unfold skipNumber
  refine (goes_peek _).bind ?_
  rcases n.isPlain with hwhole | ⟨first, others, hwhole, hfirst⟩
  · rw [hwhole]
    refine (goes_skip '0' _).bind ?_
    refine (goes_peek _).bind ?_
    split
    next d hd =>
      rw [if_neg (Bool.eq_false_iff.mp (hbehind d hd))]
      exact htail
    next hend =>
      have hnil : n.fractionText ++ (n.exponentText ++ rest) = [] :=
        List.head?_eq_none_iff.mp hend
      obtain ⟨-, -, rfl⟩ : n.fractionText = [] ∧ n.exponentText = [] ∧ rest = [] := by
        simpa using hnil
      change Goes (pure ()) (n.fractionText ++ (n.exponentText ++ [])) () []
      rw [hnil]
      exact .pure () []
  · have hdigit : first.isDigit = true := n.areWhole first (by simp [hwhole])
    have hdigits := goes_digits n.areWhole hbehind
    rw [hwhole] at hdigits ⊢
    simp only [List.cons_append, List.head?_cons, hfirst, hdigit, if_true, if_false]
    exact hdigits.bind htail

/-- A numeral is passed over, whether it is a number or not. -/
theorem goes_passNumber (n : Numeral) (fuel : Nat) {blanks : List Char} (hblanks : AreBlank blanks)
    (hrest : EndsNumeral rest) :
    Goes (passValueWithin (fuel + 1)) (blanks ++ (n.text ++ rest)) () rest := by
  have hnumber := goes_skipNumber n hrest
  obtain ⟨d, others, htext, hd⟩ := n.exists_digit_cons
  unfold passValueWithin
  cases hnegative : n.negative with
  | true =>
      rw [Numeral.text, hnegative, signed, if_pos rfl, List.cons_append]
      refine (goes_peekToken_cons hblanks (by decide) _).bind ?_
      exact (goes_skip '-' _).bind hnumber
  | false =>
      rw [htext, List.cons_append] at hnumber
      rw [Numeral.text, hnegative, signed, if_neg Bool.false_ne_true, htext, List.cons_append]
      refine (goes_peekToken_cons hblanks (isDocumentBlank_of_isDigit hd) _).bind ?_
      simp only
      rw [if_neg (ne_of_isDigit hd rfl), if_neg (ne_of_isDigit hd rfl),
        if_neg (ne_of_isDigit hd rfl), if_neg (ne_of_isDigit hd rfl), if_pos hd]
      exact hnumber

/-- What is done behind an item that has been passed over. -/
def passBehindItem (fuel : Nat) : Reader Unit := do
  match ← peekToken with
  | none => failHere .endInList
  | some c =>
      if c = ']' then skip
      else if c = ',' then do
        skip
        passItemsWithin fuel
      else failNext .expectedCommaOrBracket

/-- What is done behind a member that has been passed over. -/
def passBehindMember (fuel : Nat) : Reader Unit := do
  match ← peekToken with
  | none => failHere .endInObject
  | some c =>
      if c = '\x7d' then skip
      else if c = ',' then do
        skip
        passMembersWithin fuel
      else failNext .expectedCommaOrBrace

/-- Items are passed over one after the other. -/
theorem goes_passItems {fuel : Nat} {cs middle rest : List Char}
    (hitem : Goes (passValueWithin fuel) cs () middle)
    (hbehind : Goes (passBehindItem fuel) middle () rest) :
    Goes (passItemsWithin (fuel + 1)) cs () rest := by
  unfold passItemsWithin
  exact hitem.bind hbehind

end Reader

open Reader

mutual

/-- Every spelling of every value is passed over, however deep it is. -/
theorem goes_passValueWithin {written : Written} {cs : List Char} (h : Spelling written cs)
    {fuel : Nat} (hfuel : cs.length ≤ fuel) {blanks : List Char} (hblanks : AreBlank blanks)
    {rest : List Char} (hrest : EndsNumeral rest) :
    Goes (passValueWithin fuel) (blanks ++ (cs ++ rest)) () rest := by
  obtain ⟨fuel, rfl⟩ := exists_eq_succ h.length_pos hfuel
  cases h with
  | null =>
      unfold passValueWithin
      refine (goes_peekToken_cons hblanks (by decide) _).bind ?_
      exact (goes_skip 'n' _).bind (goes_word ['u', 'l', 'l'] rest)
  | truth =>
      unfold passValueWithin
      refine (goes_peekToken_cons hblanks (by decide) _).bind ?_
      exact (goes_skip 't' _).bind (goes_word ['r', 'u', 'e'] rest)
  | falsity =>
      unfold passValueWithin
      refine (goes_peekToken_cons hblanks (by decide) _).bind ?_
      exact (goes_skip 'f' _).bind (goes_word ['a', 'l', 's', 'e'] rest)
  | numeral n => exact goes_passNumber n fuel hblanks hrest
  | @string value inside h =>
      rw [List.cons_append, List.append_assoc]
      unfold passValueWithin
      refine (goes_peekToken_cons hblanks (by decide) _).bind ?_
      exact (goes_skip '"' _).bind (goes_passText_of_textSpelling h rest)
  | @emptyArray inside hinside =>
      rw [List.cons_append, List.append_assoc]
      unfold passValueWithin
      refine (goes_peekToken_cons hblanks (by decide) _).bind ?_
      refine (goes_skip '[' _).bind ?_
      refine (goes_peekToken_cons hinside (by decide) _).bind ?_
      exact goes_skip ']' rest
  | @array item items inside cs tail hinside hitem hitems =>
      simp only [List.length_cons, List.length_append] at hfuel
      have hpos := hitem.length_pos
      have htail := hitems.length_pos
      obtain ⟨fuel, rfl⟩ := Nat.exists_eq_succ_of_ne_zero (n := fuel) (by omega)
      have hlength : cs.length ≤ fuel := by omega
      have hfirst := goes_passValueWithin hitem hlength areBlank_nil
        (hitems.endsNumeral rest)
      have hall := goes_passItems hfirst (goes_passBehindItem hitems (by omega) rest)
      obtain ⟨c, others, rfl, hblank, hclose⟩ := hitem.exists_cons
      rw [List.cons_append, List.append_assoc, List.append_assoc]
      unfold passValueWithin
      refine (goes_peekToken_cons hblanks (by decide) _).bind ?_
      refine (goes_skip '[' _).bind ?_
      refine (goes_peekToken_cons hinside hblank _).bind ?_
      simp only [hclose, if_false]
      exact hall
  | @emptyObject inside hinside =>
      rw [List.cons_append, List.append_assoc]
      unfold passValueWithin
      refine (goes_peekToken_cons hblanks (by decide) _).bind ?_
      refine (goes_skip '\x7b' _).bind ?_
      refine (goes_peekToken_cons hinside (by decide) _).bind ?_
      exact goes_skip '\x7d' rest
  | @object members inside cs hinside hmembers =>
      simp only [List.length_cons, List.length_append] at hfuel
      have hlength : cs.length ≤ fuel := by omega
      have hall := goes_passMembersFrom hmembers hlength areBlank_nil rest
      obtain ⟨others, rfl⟩ := hmembers.exists_cons
      rw [List.cons_append, List.append_assoc]
      unfold passValueWithin
      refine (goes_peekToken_cons hblanks (by decide) _).bind ?_
      refine (goes_skip '\x7b' _).bind ?_
      exact (goes_peekToken_cons hinside (by decide) _).bind hall

/-- Behind an item, the further ones are passed over up to the bracket. -/
theorem goes_passBehindItem {items : List Written} {tail : List Char} (h : ItemsBehind items tail)
    {fuel : Nat} (hfuel : tail.length ≤ fuel + 1) (rest : List Char) :
    Goes (passBehindItem fuel) (tail ++ rest) () rest := by
  unfold passBehindItem
  cases h with
  | close hblanks =>
      rw [List.append_assoc]
      refine (goes_peekToken_cons hblanks (by decide) _).bind ?_
      exact goes_skip ']' rest
  | @more item items before behind cs tail hbefore hbehind hitem hitems =>
      have hpos := hitem.length_pos
      have htail := hitems.length_pos
      simp only [List.length_cons, List.length_append] at hfuel
      obtain ⟨fuel, rfl⟩ := Nat.exists_eq_succ_of_ne_zero (n := fuel) (by omega)
      have hlength : cs.length ≤ fuel := by omega
      have hfirst := goes_passValueWithin hitem hlength hbehind
        (hitems.endsNumeral rest)
      rw [List.append_assoc, List.cons_append, List.append_assoc, List.append_assoc]
      refine (goes_peekToken_cons hbefore (by decide) _).bind ?_
      refine (goes_skip ',' _).bind ?_
      exact goes_passItems hfirst (goes_passBehindItem hitems (by omega) rest)

/-- The members of an object are passed over from the first one on. -/
theorem goes_passMembersFrom {members : List (String × Written)} {cs : List Char}
    (h : MembersFrom members cs) {fuel : Nat} (hfuel : cs.length ≤ fuel) {blanks : List Char}
    (hblanks : AreBlank blanks) (rest : List Char) :
    Goes (passMembersWithin fuel) (blanks ++ (cs ++ rest)) () rest := by
  cases h with
  | @member name value members inside before behind cs tail hname hbefore hbehind hvalue hmembers =>
      simp only [List.length_cons, List.length_append] at hfuel
      obtain ⟨fuel, rfl⟩ := Nat.exists_eq_succ_of_ne_zero (n := fuel) (by omega)
      have hlength : cs.length ≤ fuel := by omega
      have hfirst := goes_passValueWithin hvalue hlength hbehind
        (hmembers.endsNumeral rest)
      rw [List.cons_append, List.append_assoc, List.cons_append, List.append_assoc,
        List.cons_append, List.append_assoc, List.append_assoc]
      unfold passMembersWithin
      refine (goes_peekToken_cons hblanks (by decide) _).bind ?_
      refine (goes_skip '"' _).bind ?_
      refine (goes_passText_of_textSpelling hname _).bind ?_
      refine (goes_peekToken_cons hbefore (by decide) _).bind ?_
      refine (goes_skip ':' _).bind ?_
      exact hfirst.bind (goes_passBehindMember hmembers (by omega) rest)

/-- Behind a member, the further ones are passed over up to the brace. -/
theorem goes_passBehindMember {members : List (String × Written)} {tail : List Char}
    (h : MembersBehind members tail) {fuel : Nat} (hfuel : tail.length ≤ fuel + 1)
    (rest : List Char) : Goes (passBehindMember fuel) (tail ++ rest) () rest := by
  unfold passBehindMember
  cases h with
  | close hblanks =>
      rw [List.append_assoc]
      refine (goes_peekToken_cons hblanks (by decide) _).bind ?_
      exact goes_skip '\x7d' rest
  | @more members before behind cs hbefore hbehind hmembers =>
      simp only [List.length_cons, List.length_append] at hfuel
      have hlength : cs.length ≤ fuel := by omega
      have hall := goes_passMembersFrom hmembers hlength hbehind rest
      rw [List.append_assoc, List.cons_append, List.append_assoc]
      refine (goes_peekToken_cons hbefore (by decide) _).bind ?_
      exact (goes_skip ',' _).bind hall

end

/-- Any document is passed over, with the blanks in front of it. -/
theorem goes_passValue {written : Written} {cs : List Char} (h : Spelling written cs)
    {blanks : List Char} (hblanks : AreBlank blanks) {rest : List Char} (hrest : EndsNumeral rest) :
    Goes passValue (blanks ++ (cs ++ rest)) () rest := by
  refine (goes_fuelLeft _).bind (goes_passValueWithin h ?_ hblanks hrest)
  simp only [List.length_append]
  omega

end Json

end RequestFilter
