import RequestFilter.Json.Typed
import RequestFilter.Proofs.Json.Numerals

/-!
# What documents come to

The reader takes the text of any document, with blanks in front of it, and comes
to the tree that the document stands for or to its first fault.
-/

namespace RequestFilter

namespace Json

section Strings

/-- No unit is both halves of a pair. -/
theorem isTrailingSurrogate_of_isLeadingSurrogate {unit : Nat}
    (h : isLeadingSurrogate unit = true) : isTrailingSurrogate unit = false := by
  simp only [isLeadingSurrogate, Bool.and_eq_true, decide_eq_true_eq] at h
  simp only [isTrailingSurrogate, Bool.and_eq_false_iff, decide_eq_false_iff_not]
  omega

/-- A character is read, however it is spelled. -/
theorem readText_charSpelling {c : Char} {written : List Char} (h : CharSpelling c written)
    (cs : List Char) (place : Place) :
    ∃ place', readText (written ++ cs) place =
      (readText cs place').map fun answer => (c :: answer.1, answer.2) := by
  cases h with
  | escape h => exact readText_escape h cs place
  | pair hfirst hleading hsecond htrailing hchar =>
      let behind := (place.after '\\').after 'u'
      refine ⟨⟨behind.line, behind.column + 4 + 2 + 4⟩, ?_⟩
      simp only [List.cons_append, List.nil_append, readText, Char.reduceEq, if_true, if_false,
        hfirst, isTrailingSurrogate_of_isLeadingSurrogate hleading, hleading, hsecond, htrailing,
        Bool.false_eq_true, hchar]
      rfl

theorem exists_readText_of_textSpelling {cs inside : List Char} (h : TextSpelling cs inside)
    (rest : List Char) (place : Place) :
    ∃ place', readText (inside ++ '"' :: rest) place = .ok (cs, ⟨rest, place'⟩) := by
  induction h generalizing place with
  | nil => exact ⟨place.after '"', by simp [readText]⟩
  | @cons c written cs others hc _ ih =>
      obtain ⟨middle, hmiddle⟩ := readText_charSpelling hc (others ++ '"' :: rest) place
      obtain ⟨place', hplace'⟩ := ih middle
      refine ⟨place', ?_⟩
      rw [List.append_assoc, hmiddle, hplace']
      rfl

end Strings

namespace Reader

/-- A string is read up to the quote that ends it. -/
theorem goes_text_of_textSpelling {value : String} {inside : List Char}
    (h : TextSpelling value.toList inside) (rest : List Char) :
    Goes text (inside ++ '"' :: rest) value rest := by
  intro place
  obtain ⟨place', hplace'⟩ := exists_readText_of_textSpelling h rest place
  refine ⟨place', ?_⟩
  rw [text, hplace']
  exact congrArg (fun read => Except.ok (read, _)) String.ofList_toList

theorem goes_word (expected rest : List Char) : Goes (word expected) (expected ++ rest) () rest := by
  induction expected with
  | nil => exact .pure () rest
  | cons c more ih =>
      refine (goes_peek _).bind ?_
      simp only [List.cons_append, List.head?_cons, if_true]
      exact (goes_skip c _).bind ih

theorem comes_failNext {α : Type} (fault : Fault) (cs rest : List Char) :
    Comes (failNext fault : Reader α) cs (.error fault) rest :=
  fun place => ⟨Cursor.nextPlace ⟨cs, place⟩, rfl⟩

end Reader

section Heads

/-- Behind a part of a list or object come blanks, a comma or a bracket. -/
theorem endsNumeral_append {blanks : List Char} (hblanks : AreBlank blanks) {c : Char}
    (hc : c = ',' ∨ c = ']' ∨ c = '\x7d') (rest : List Char) :
    EndsNumeral (blanks ++ c :: rest) := by
  intro d hd
  cases blanks with
  | nil =>
      cases hd
      rcases hc with rfl | rfl | rfl <;> decide
  | cons first others =>
      have hblank := hblanks first List.mem_cons_self
      cases hd
      simp only [isDocumentBlank, Bool.or_eq_true, decide_eq_true_eq] at hblank
      rcases hblank with ((rfl | rfl) | rfl) | rfl <;> decide

/-- What stands behind an item continues no number. -/
theorem ItemsBehind.endsNumeral {items : List Written} {tail : List Char}
    (h : ItemsBehind items tail) (rest : List Char) : EndsNumeral (tail ++ rest) := by
  cases h with
  | close hblanks =>
      rw [List.append_assoc]
      exact endsNumeral_append hblanks (.inr (.inl rfl)) rest
  | more hbefore hbehind hitem hitems =>
      rw [List.append_assoc]
      exact endsNumeral_append hbefore (.inl rfl) _

/-- What stands behind a member continues none either. -/
theorem MembersBehind.endsNumeral {members : List (String × Written)} {tail : List Char}
    (h : MembersBehind members tail) (rest : List Char) : EndsNumeral (tail ++ rest) := by
  cases h with
  | close hblanks =>
      rw [List.append_assoc]
      exact endsNumeral_append hblanks (.inr (.inr rfl)) rest
  | more hbefore hbehind hmembers =>
      rw [List.append_assoc]
      exact endsNumeral_append hbefore (.inl rfl) _

/-- A numeral has a digit behind its sign. -/
theorem Numeral.exists_digit_cons (n : Numeral) :
    ∃ d others, n.magnitudeText = d :: others ∧ d.isDigit = true := by
  obtain ⟨d, ds, hwhole⟩ : ∃ d ds, n.whole = d :: ds := by
    rcases n.isPlain with hwhole | ⟨first, others, hwhole, -⟩
    · exact ⟨'0', [], hwhole⟩
    · exact ⟨first, others, hwhole⟩
  refine ⟨d, ds ++ (n.fractionText ++ n.exponentText), ?_, n.areWhole d (by simp [hwhole])⟩
  rw [Numeral.magnitudeText, hwhole, List.cons_append]

theorem ne_of_isDigit {c d : Char} (hc : c.isDigit = true) (hd : d.isDigit = false) : c ≠ d := by
  rintro rfl
  rw [hc] at hd
  cases hd

theorem isDocumentBlank_of_isDigit {c : Char} (hc : c.isDigit = true) :
    isDocumentBlank c = false := by
  simp only [isDocumentBlank, Bool.or_eq_false_iff, decide_eq_false_iff_not]
  exact ⟨⟨⟨ne_of_isDigit hc rfl, ne_of_isDigit hc rfl⟩, ne_of_isDigit hc rfl⟩,
    ne_of_isDigit hc rfl⟩

/-- A value starts with a character that is no blank and does not close a list. -/
theorem Spelling.exists_cons {written : Written} {cs : List Char} (h : Spelling written cs) :
    ∃ c others, cs = c :: others ∧ isDocumentBlank c = false ∧ c ≠ ']' := by
  cases h with
  | null => exact ⟨'n', _, rfl, by decide, by decide⟩
  | truth => exact ⟨'t', _, rfl, by decide, by decide⟩
  | falsity => exact ⟨'f', _, rfl, by decide, by decide⟩
  | numeral n =>
      obtain ⟨d, others, htext, hd⟩ := n.exists_digit_cons
      rw [Numeral.text, signed]
      split
      next => exact ⟨'-', _, rfl, by decide, by decide⟩
      next =>
        exact ⟨d, others, htext, isDocumentBlank_of_isDigit hd, ne_of_isDigit hd rfl⟩
  | string h => exact ⟨'"', _, rfl, by decide, by decide⟩
  | emptyArray hblanks => exact ⟨'[', _, rfl, by decide, by decide⟩
  | array hblanks hitem hitems => exact ⟨'[', _, rfl, by decide, by decide⟩
  | emptyObject hblanks => exact ⟨'\x7b', _, rfl, by decide, by decide⟩
  | object hblanks hmembers => exact ⟨'\x7b', _, rfl, by decide, by decide⟩

end Heads

section Numerals

open Reader

/-- A sign or a digit leads to the number. -/
theorem comes_value_numeral (n : Numeral) (fuel levels : Nat) {blanks rest : List Char}
    (hblanks : AreBlank blanks) (hrest : EndsNumeral rest) :
    Comes (valueWithin (fuel + 1) levels) (blanks ++ (n.text ++ rest))
      ((Written.numeral n).read levels) rest := by
  have hnumber := (comes_number n hrest).bind fun found => Comes.pure (Json.number found) rest
  obtain ⟨d, others, htext, hd⟩ := n.exists_digit_cons
  unfold valueWithin
  cases hnegative : n.negative with
  | true =>
      rw [hnegative] at hnumber
      rw [Numeral.text, hnegative, signed, if_pos rfl, List.cons_append]
      refine (goes_peekToken_cons hblanks (by decide) _).comes ?_
      exact (goes_skip '-' _).comes hnumber
  | false =>
      rw [hnegative, htext, List.cons_append] at hnumber
      rw [Numeral.text, hnegative, signed, if_neg Bool.false_ne_true, htext, List.cons_append]
      refine (goes_peekToken_cons hblanks (isDocumentBlank_of_isDigit hd) _).comes ?_
      simp only
      rw [if_neg (ne_of_isDigit hd rfl), if_neg (ne_of_isDigit hd rfl),
        if_neg (ne_of_isDigit hd rfl), if_neg (ne_of_isDigit hd rfl), if_pos hd]
      exact hnumber

end Numerals

/-- No value is spelled by nothing. -/
theorem Spelling.length_pos {written : Written} {cs : List Char} (h : Spelling written cs) :
    0 < cs.length := by
  obtain ⟨c, others, hcons, -⟩ := h.exists_cons
  rw [hcons]
  exact Nat.succ_pos _

theorem ItemsBehind.length_pos {items : List Written} {tail : List Char}
    (h : ItemsBehind items tail) : 0 < tail.length := by
  cases h with
  | close hblanks => simp
  | more hbefore hbehind hitem hitems =>
      rw [List.length_append]
      exact Nat.add_pos_right _ (Nat.succ_pos _)

theorem MembersBehind.length_pos {members : List (String × Written)} {tail : List Char}
    (h : MembersBehind members tail) : 0 < tail.length := by
  cases h with
  | close hblanks => simp
  | more hbefore hbehind hmembers =>
      rw [List.length_append]
      exact Nat.add_pos_right _ (Nat.succ_pos _)

theorem exists_eq_succ {cs : List Char} {fuel : Nat} (hpos : 0 < cs.length)
    (hfuel : cs.length ≤ fuel) : ∃ less, fuel = less + 1 :=
  Nat.exists_eq_succ_of_ne_zero (Nat.ne_of_gt (Nat.lt_of_lt_of_le hpos hfuel))

theorem MembersFrom.exists_cons {members : List (String × Written)} {cs : List Char}
    (h : MembersFrom members cs) : ∃ others, cs = '"' :: others := by
  cases h
  exact ⟨_, rfl⟩

section Steps

open Reader

variable {fuel levels : Nat} {cs rest : List Char}

/-- Behind the bracket of a list, its items decide. -/
theorem comes_array {items : List Written} {blanks : List Char} (hblanks : AreBlank blanks)
    (hitems : ∀ deeper, Comes (itemsWithin fuel deeper) cs (Written.readItems deeper items) rest) :
    Comes (valueWithin (fuel + 1) levels) (blanks ++ '[' :: cs) ((Written.array items).read levels)
      rest := by
  unfold valueWithin
  refine (goes_peekToken_cons hblanks (by decide) _).comes ?_
  cases levels with
  | zero => exact comes_failNext .nestedTooDeep _ _
  | succ deeper =>
      exact (goes_skip '[' _).comes
        ((hitems deeper).bind fun read => Comes.pure (Json.array read) rest)

theorem comes_object {members : List (String × Written)} {blanks : List Char}
    (hblanks : AreBlank blanks)
    (hmembers : ∀ deeper,
      Comes (membersWithin fuel deeper) cs (Written.readMembers deeper members) rest) :
    Comes (valueWithin (fuel + 1) levels) (blanks ++ '\x7b' :: cs)
      ((Written.object members).read levels) rest := by
  unfold valueWithin
  refine (goes_peekToken_cons hblanks (by decide) _).comes ?_
  cases levels with
  | zero => exact comes_failNext .nestedTooDeep _ _
  | succ deeper =>
      exact (goes_skip '\x7b' _).comes
        ((hmembers deeper).bind fun read => Comes.pure (Json.object (distinctMembers read)) rest)

theorem comes_members_close (levels : Nat) {blanks : List Char} (hblanks : AreBlank blanks)
    (rest : List Char) :
    Comes (membersWithin (fuel + 1) levels) (blanks ++ '\x7d' :: rest) (.ok []) rest := by
  unfold membersWithin
  refine (goes_peekToken_cons hblanks (by decide) _).comes ?_
  exact (goes_skip '\x7d' _).bind (.pure [] rest)

/-- From the first member on, an object comes to what its members are read as. -/
theorem comes_members {members : List (String × Written)} {blanks : List Char}
    (hblanks : AreBlank blanks) (h : MembersFrom members cs)
    (hmember : Comes (skip >>= fun _ => memberWithin fuel levels) (cs ++ rest)
      (Written.readMembers levels members) rest) :
    Comes (membersWithin (fuel + 1) levels) (blanks ++ (cs ++ rest))
      (Written.readMembers levels members) rest := by
  obtain ⟨others, rfl⟩ := h.exists_cons
  unfold membersWithin
  exact (goes_peekToken_cons hblanks (by decide) _).comes hmember

/-- An item and those behind it, in front of which a list is not closed. -/
theorem comes_items {item : Written} {items : List Written} {tail : List Char}
    (hitem : Comes (valueWithin fuel levels) (cs ++ (tail ++ rest)) (item.read levels)
      (tail ++ rest))
    (hitems : Comes (moreItemsWithin fuel levels) (tail ++ rest)
      (Written.readItems levels items) rest) :
    Comes (do
      let item ← valueWithin fuel levels
      let others ← moreItemsWithin fuel levels
      pure (item :: others)) (cs ++ (tail ++ rest)) (Written.readItems levels (item :: items))
      rest :=
  hitem.bind fun first => hitems.bind fun others => Comes.pure (first :: others) rest

end Steps

open Reader

mutual

/-- With fuel for its length, every spelling of a value comes to what the value is read as. -/
theorem comes_valueWithin {written : Written} {cs : List Char} (h : Spelling written cs)
    {fuel : Nat} (hfuel : cs.length ≤ fuel) (levels : Nat) {blanks : List Char}
    (hblanks : AreBlank blanks) {rest : List Char} (hrest : EndsNumeral rest) :
    Comes (valueWithin fuel levels) (blanks ++ (cs ++ rest)) (written.read levels) rest := by
  obtain ⟨fuel, rfl⟩ := exists_eq_succ h.length_pos hfuel
  cases h with
  | null =>
      unfold valueWithin
      refine (goes_peekToken_cons hblanks (by decide) _).comes ?_
      exact (goes_skip 'n' _).bind ((goes_word ['u', 'l', 'l'] rest).bind (.pure _ rest))
  | truth =>
      unfold valueWithin
      refine (goes_peekToken_cons hblanks (by decide) _).comes ?_
      exact (goes_skip 't' _).bind ((goes_word ['r', 'u', 'e'] rest).bind (.pure _ rest))
  | falsity =>
      unfold valueWithin
      refine (goes_peekToken_cons hblanks (by decide) _).comes ?_
      exact (goes_skip 'f' _).bind ((goes_word ['a', 'l', 's', 'e'] rest).bind (.pure _ rest))
  | numeral n => exact comes_value_numeral n fuel levels hblanks hrest
  | @string value inside h =>
      rw [List.cons_append, List.append_assoc]
      unfold valueWithin
      refine (goes_peekToken_cons hblanks (by decide) _).comes ?_
      exact (goes_skip '"' _).bind ((goes_text_of_textSpelling h rest).bind (.pure _ rest))
  | @emptyArray inside hinside =>
      simp only [List.length_cons, List.length_append, List.length_nil] at hfuel
      obtain ⟨fuel, rfl⟩ := Nat.exists_eq_succ_of_ne_zero (n := fuel) (by omega)
      rw [List.cons_append, List.append_assoc]
      refine comes_array hblanks fun deeper => ?_
      unfold itemsWithin
      refine (goes_peekToken_cons hinside (by decide) _).comes ?_
      exact (goes_skip ']' _).bind (.pure _ rest)
  | @array item items inside cs tail hinside hitem hitems =>
      have hcs := hitem.length_pos
      have htail := hitems.length_pos
      simp only [List.length_cons, List.length_append] at hfuel
      obtain ⟨fuel, rfl⟩ := Nat.exists_eq_succ_of_ne_zero (n := fuel) (by omega)
      have hbefore : cs.length ≤ fuel := by omega
      have hbehind : tail.length ≤ fuel := by omega
      rw [List.cons_append, List.append_assoc, List.append_assoc]
      refine comes_array hblanks fun deeper => ?_
      have hmore := comes_moreItemsWithin hitems hbehind deeper rest
      have hfirst := comes_valueWithin hitem hbefore deeper areBlank_nil (hitems.endsNumeral rest)
      obtain ⟨c, others, rfl, hblank, hclose⟩ := hitem.exists_cons
      unfold itemsWithin
      refine (goes_peekToken_cons hinside hblank _).comes ?_
      simp only [hclose, if_false]
      exact comes_items hfirst hmore
  | @emptyObject inside hinside =>
      simp only [List.length_cons, List.length_append, List.length_nil] at hfuel
      obtain ⟨fuel, rfl⟩ := Nat.exists_eq_succ_of_ne_zero (n := fuel) (by omega)
      rw [List.cons_append, List.append_assoc]
      exact comes_object hblanks fun deeper => comes_members_close deeper hinside rest
  | @object members inside cs hinside hmembers =>
      obtain ⟨others, hcons⟩ := hmembers.exists_cons
      have hcs : 0 < cs.length := by simp [hcons]
      simp only [List.length_cons, List.length_append] at hfuel
      obtain ⟨fuel, rfl⟩ := Nat.exists_eq_succ_of_ne_zero (n := fuel) (by omega)
      have hlength : cs.length ≤ fuel + 1 := by omega
      rw [List.cons_append, List.append_assoc]
      refine comes_object hblanks fun deeper => ?_
      exact comes_members hinside hmembers (comes_memberWithin hmembers hlength deeper rest)

/-- With fuel for their length, the further items of a list come to what they are read as. -/
theorem comes_moreItemsWithin {items : List Written} {cs : List Char} (h : ItemsBehind items cs)
    {fuel : Nat} (hfuel : cs.length ≤ fuel) (levels : Nat) (rest : List Char) :
    Comes (moreItemsWithin fuel levels) (cs ++ rest) (Written.readItems levels items) rest := by
  obtain ⟨fuel, rfl⟩ := exists_eq_succ h.length_pos hfuel
  unfold moreItemsWithin
  cases h with
  | close hblanks =>
      rw [List.append_assoc]
      refine (goes_peekToken_cons hblanks (by decide) _).comes ?_
      exact (goes_skip ']' _).bind (.pure _ rest)
  | @more item items before behind cs tail hbefore hbehind hitem hitems =>
      simp only [List.length_cons, List.length_append] at hfuel
      have hcs : cs.length ≤ fuel := by omega
      have htail : tail.length ≤ fuel := by omega
      have hmore := comes_moreItemsWithin hitems htail levels rest
      have hfirst := comes_valueWithin hitem hcs levels areBlank_nil (hitems.endsNumeral rest)
      obtain ⟨c, others, rfl, hblank, hclose⟩ := hitem.exists_cons
      rw [List.append_assoc, List.cons_append, List.append_assoc, List.append_assoc]
      refine (goes_peekToken_cons hbefore (by decide) _).comes ?_
      refine (goes_skip ',' _).comes ?_
      refine (goes_peekToken_cons hbehind hblank _).comes ?_
      simp only [hclose, if_false]
      exact comes_items hfirst hmore

/-- So do the members of an object, behind the quote of the first name. -/
theorem comes_memberWithin {members : List (String × Written)} {cs : List Char}
    (h : MembersFrom members cs) {fuel : Nat} (hfuel : cs.length ≤ fuel + 1) (levels : Nat)
    (rest : List Char) :
    Comes (skip >>= fun _ => memberWithin fuel levels) (cs ++ rest)
      (Written.readMembers levels members) rest := by
  cases h with
  | @member name value members inside before behind cs tail hname hbefore hbehind hvalue hmembers =>
      simp only [List.length_cons, List.length_append] at hfuel
      obtain ⟨fuel, rfl⟩ := Nat.exists_eq_succ_of_ne_zero (n := fuel) (by omega)
      have hcs : cs.length ≤ fuel := by omega
      have htail : tail.length ≤ fuel := by omega
      have hmore := comes_moreMembersWithin hmembers htail levels rest
      have hfirst := comes_valueWithin hvalue hcs levels hbehind (hmembers.endsNumeral rest)
      rw [List.cons_append, List.append_assoc, List.cons_append, List.append_assoc,
        List.cons_append, List.append_assoc, List.append_assoc]
      refine (goes_skip '"' _).comes ?_
      unfold memberWithin
      refine (goes_text_of_textSpelling hname _).comes ?_
      refine (goes_peekToken_cons hbefore (by decide) _).comes ?_
      refine (goes_skip ':' _).comes ?_
      exact hfirst.bind fun first => hmore.bind fun others => .pure ((name, first) :: others) rest

/-- So do its further members. -/
theorem comes_moreMembersWithin {members : List (String × Written)} {cs : List Char}
    (h : MembersBehind members cs) {fuel : Nat} (hfuel : cs.length ≤ fuel) (levels : Nat)
    (rest : List Char) :
    Comes (moreMembersWithin fuel levels) (cs ++ rest) (Written.readMembers levels members)
      rest := by
  obtain ⟨fuel, rfl⟩ := exists_eq_succ h.length_pos hfuel
  unfold moreMembersWithin
  cases h with
  | close hblanks =>
      rw [List.append_assoc]
      refine (goes_peekToken_cons hblanks (by decide) _).comes ?_
      exact (goes_skip '\x7d' _).bind (.pure _ rest)
  | @more members before behind cs hbefore hbehind hmembers =>
      simp only [List.length_cons, List.length_append] at hfuel
      have hcs : cs.length ≤ fuel + 1 := by omega
      have hmember := comes_memberWithin hmembers hcs levels rest
      obtain ⟨others, rfl⟩ := hmembers.exists_cons
      rw [List.append_assoc, List.cons_append, List.append_assoc]
      refine (goes_peekToken_cons hbefore (by decide) _).comes ?_
      refine (goes_skip ',' _).comes ?_
      exact (goes_peekToken_cons hbehind (by decide) _).comes hmember

end

/-- An object is read member by member. -/
theorem comes_objectMembers {members : List (String × Written)} {cs : List Char}
    (h : Spelling (.object members) cs) (levels : Nat) (expected : String) {blanks : List Char}
    (hblanks : AreBlank blanks) (rest : List Char) :
    Comes (Reader.members (levels + 1) expected) (blanks ++ (cs ++ rest))
      (Written.readMembers levels members) rest := by
  unfold Reader.members
  cases h with
  | @emptyObject inside hinside =>
      rw [List.cons_append, List.append_assoc]
      refine (goes_peekToken_cons hblanks (by decide) _).comes ?_
      refine (goes_skip '\x7b' _).comes ?_
      exact (goes_fuelLeft _).comes (comes_members_close levels hinside rest)
  | @object members inside cs hinside hmembers =>
      rw [List.cons_append, List.append_assoc]
      refine (goes_peekToken_cons hblanks (by decide) _).comes ?_
      refine (goes_skip '\x7b' _).comes ?_
      refine (goes_fuelLeft _).comes ?_
      refine comes_members hinside hmembers (comes_memberWithin hmembers ?_ levels rest)
      simp only [List.length_append]
      omega

section Texts

/-- Blanks end a number. -/
theorem AreBlank.endsNumeral {blanks : List Char} (h : AreBlank blanks) : EndsNumeral blanks := by
  intro c hc
  have hblank := h c (List.mem_of_mem_head? hc)
  simp only [isDocumentBlank, Bool.or_eq_true, decide_eq_true_eq] at hblank
  rcases hblank with ((rfl | rfl) | rfl) | rfl <;> decide

/-- A reader that leaves blanks at most has read the whole text. -/
theorem run_mapError_fault {α : Type} {reader : Reader α} {text : String}
    {outcome : Except Fault α} {blanks : List Char}
    (h : Comes reader text.toList outcome blanks) (hblanks : AreBlank blanks) :
    (reader.run text).mapError Error.fault = outcome := by
  cases outcome with
  | ok a =>
      rw [run_eq_ok h hblanks]
      rfl
  | error fault =>
      obtain ⟨place, hplace⟩ := h .start
      rw [run, Cursor.start, hplace]
      rfl

/-- The text of a document is read as the document tells. -/
theorem parse_mapError_fault {written : Written} {text : String} (h : IsTextOf written text) :
    (Json.parse text).mapError Error.fault = written.read maxLevels := by
  obtain ⟨front, cs, back, hfront, hspelling, hback, htext⟩ := h
  refine run_mapError_fault ?_ hback
  rw [htext]
  refine (goes_fuelLeft _).comes (comes_valueWithin hspelling ?_ maxLevels hfront hback.endsNumeral)
  simp only [List.length_append]
  omega

/-- The text of an object is read member by member. -/
theorem members_mapError_fault {members : List (String × Written)} {text : String}
    (h : IsTextOf (.object members) text) (levels : Nat) (expected : String) :
    ((Reader.members (levels + 1) expected).run text).mapError Error.fault =
      Written.readMembers levels members := by
  obtain ⟨front, cs, back, hfront, hspelling, hback, htext⟩ := h
  refine run_mapError_fault ?_ hback
  rw [htext]
  exact comes_objectMembers hspelling levels expected hfront back

end Texts

end Json

end RequestFilter
