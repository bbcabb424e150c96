import RequestFilter.Proofs.Json.Answers

/-!
# What readers have read

A reader that has answered has read the text of a document, and the answer is
the tree of that document. So a text has a tree when it is the text of a
document that has one.
-/

namespace RequestFilter

namespace Json

theorem AreBlank.append {front back : List Char} (hfront : AreBlank front)
    (hback : AreBlank back) : AreBlank (front ++ back) :=
  fun c hc => (List.mem_append.mp hc).elim (hfront c) (hback c)

section Strings

theorem hexValue?_lt {c : Char} {v : Nat} (h : hexValue? c = some v) : v < 16 := by
  have hle : ∀ {a b : Char}, a ≤ b → a.toNat ≤ b.toNat := fun h => UInt32.le_iff_toNat_le.mp h
  unfold hexValue? at h
  split at h
  next hc =>
    have hupper : c.toNat ≤ 57 := hle hc.2
    cases h
    exact Nat.lt_of_le_of_lt (Nat.sub_le_sub_right hupper 48) (by decide)
  next =>
    split at h
    next hc =>
      have hupper : c.toNat ≤ 102 := hle hc.2
      cases h
      exact Nat.lt_of_le_of_lt (Nat.add_le_add_right (Nat.sub_le_sub_right hupper 97) 10) (by decide)
    next =>
      split at h
      next hc =>
        have hupper : c.toNat ≤ 70 := hle hc.2
        cases h
        exact Nat.lt_of_le_of_lt (Nat.add_le_add_right (Nat.sub_le_sub_right hupper 65) 10)
          (by decide)
      next => cases h

theorem hexUnit?_lt {a b c d : Char} {unit : Nat} (h : hexUnit? a b c d = some unit) :
    unit < 65536 := by
  simp only [hexUnit?, Option.bind_eq_bind, Option.bind_eq_some_iff, Option.pure_def,
    Option.some.injEq] at h
  obtain ⟨a', ha, b', hb, c', hc, d', hd, rfl⟩ := h
  have ha' := hexValue?_lt ha
  have hb' := hexValue?_lt hb
  have hc' := hexValue?_lt hc
  have hd' := hexValue?_lt hd
  omega

/-- A unit that is no half of a pair is a character. -/
theorem toNat_ofNat_of_not_surrogate {unit : Nat} (hlt : unit < 65536)
    (htrailing : isTrailingSurrogate unit = false) (hleading : isLeadingSurrogate unit = false) :
    (Char.ofNat unit).toNat = unit := by
  have hvalid : unit.isValidChar := by
    simp only [isTrailingSurrogate, isLeadingSurrogate, Bool.and_eq_false_iff,
      decide_eq_false_iff_not] at htrailing hleading
    change unit < 0xD800 ∨ 0xDFFF < unit ∧ unit < 0x110000
    omega
  rw [Char.ofNat, dif_pos hvalid]
  rfl

theorem charSpelling_unit {h₁ h₂ h₃ h₄ : Char} {unit : Nat}
    (hunit : hexUnit? h₁ h₂ h₃ h₄ = some unit) (htrailing : ¬ isTrailingSurrogate unit = true)
    (hleading : ¬ isLeadingSurrogate unit = true) :
    CharSpelling (Char.ofNat unit) ['\\', 'u', h₁, h₂, h₃, h₄] := by
  have hvalue := toNat_ofNat_of_not_surrogate (hexUnit?_lt hunit)
    (Bool.eq_false_iff.mpr htrailing) (Bool.eq_false_iff.mpr hleading)
  exact .escape (.unit (hunit.trans (congrArg some hvalue.symm)))

/-- A character in front of a string that has been read. -/
theorem exists_textSpelling_cons {c : Char} {written rest read : List Char} {place : Place}
    {cursor : Cursor} (hc : CharSpelling c written)
    (h : (do
      let (cs, cursor) ← readText rest place
      pure (c :: cs, cursor)) = Except.ok (read, cursor))
    (ih : ∀ {read : List Char}, readText rest place = .ok (read, cursor) →
      ∃ inside, TextSpelling read inside ∧ rest = inside ++ '"' :: cursor.rest) :
    ∃ inside, TextSpelling read inside ∧ written ++ rest = inside ++ '"' :: cursor.rest := by
  cases hread : readText rest place with
  | error error =>
      rw [hread] at h
      cases h
  | ok answer =>
      rw [hread] at h
      cases h
      obtain ⟨inside, hinside, hrest⟩ := ih hread
      exact ⟨written ++ inside, .cons hc hinside, by rw [hrest, List.append_assoc]⟩

/-- What was read as a string is a spelling of it, up to a quote. -/
theorem exists_textSpelling {cs read : List Char} {place : Place} {cursor : Cursor}
    (h : readText cs place = .ok (read, cursor)) :
    ∃ inside, TextSpelling read inside ∧ cs = inside ++ '"' :: cursor.rest := by
  fun_induction readText cs place generalizing read with
  | case2 =>
      cases h
      exact ⟨[], .nil, rfl⟩
  | case7 _ h₁ h₂ h₃ h₄ leading hfirst _ hleading g₁ g₂ g₃ g₄ rest trailing hsecond htrailing =>
      rename_i ih
      exact exists_textSpelling_cons (.pair hfirst hleading hsecond htrailing rfl) h ih
  | case12 _ h₁ h₂ h₃ h₄ rest unit hunit htrailing hleading =>
      rename_i ih
      exact exists_textSpelling_cons (charSpelling_unit hunit htrailing hleading) h ih
  | case14 _ letter rest hletter shown hshown =>
      rename_i ih
      exact exists_textSpelling_cons (.escape (.letter hletter hshown)) h ih
  | case17 c rest _ hquote hbackslash hcontrol ih =>
      exact exists_textSpelling_cons
        (.escape (.plain hquote hbackslash (Bool.eq_false_iff.mpr hcontrol))) h ih
  | _ => cases h

end Strings
namespace Went

open Reader

theorem of_fuelLeft {α : Type} {next : Nat → Reader α} {cs rest : List Char} {a : α}
    (h : Went (fuelLeft >>= next) cs a rest) : Went (next (2 * cs.length + 2)) cs a rest :=
  h

theorem of_text {cs rest : List Char} {value : String} (h : Went text cs value rest) :
    ∃ inside, TextSpelling value.toList inside ∧ cs = inside ++ '"' :: rest := by
  obtain ⟨place, place', hplace⟩ := h
  rw [text] at hplace
  cases hread : readText cs place with
  | error error =>
      rw [hread] at hplace
      cases hplace
  | ok answer =>
      rw [hread] at hplace
      obtain ⟨read, cursor⟩ := answer
      obtain ⟨inside, hinside, hcs⟩ := exists_textSpelling hread
      cases hplace
      exact ⟨inside, by rwa [String.toList_ofList], hcs⟩

section Steps

variable {fuel : Nat}

/-- What was read as a number is the text of a numeral. -/
theorem exists_numeral {negative : Bool} {cs rest : List Char} {document : Json}
    (h : Went (Reader.number negative >>= fun n => pure (Json.number n)) cs document rest) :
    ∃ n : Numeral, signed negative cs = n.text ++ rest := by
  obtain ⟨_, _, hnumber, hpure⟩ := of_bind h
  obtain ⟨n, hnegative, htext⟩ := of_number hnumber
  refine ⟨n, ?_⟩
  rw [htext, (of_pure hpure).2, Numeral.text, hnegative]
  cases negative <;> rfl

/-- What the reader of a value has read, if the readers behind brackets have read lists and
objects. -/
theorem of_value {levels : Nat} {cs rest : List Char} {document : Json}
    (h : Went (valueWithin (fuel + 1) levels) cs document rest)
    (hitems : ∀ {levels cs read rest}, Went (itemsWithin fuel levels) cs read rest →
      ∃ items inside, Spelling (.array items) ('[' :: inside) ∧ cs = inside ++ rest)
    (hmembers : ∀ {levels cs read rest}, Went (membersWithin fuel levels) cs read rest →
      ∃ members inside, Spelling (.object members) ('\x7b' :: inside) ∧ cs = inside ++ rest) :
    ∃ blanks written inside, AreBlank blanks ∧ Spelling written inside ∧
      cs = blanks ++ (inside ++ rest) := by
  unfold valueWithin at h
  obtain ⟨blanks, c, others, hblanks, rfl, htail⟩ :=
    exists_cons_of_peekToken h not_failHere
  suffices hread : ∃ written inside, Spelling written inside ∧ c :: others = inside ++ rest by
    obtain ⟨written, inside, hspelling, hothers⟩ := hread
    exact ⟨blanks, written, inside, hblanks, hspelling, by rw [hothers]⟩
  dsimp only at htail
  split at htail
  next hc =>
    subst hc
    exact ⟨.null, _, .null, of_skip_word htail⟩
  next =>
  split at htail
  next hc =>
    subst hc
    exact ⟨.bool true, _, .truth, of_skip_word htail⟩
  next =>
  split at htail
  next hc =>
    subst hc
    exact ⟨.bool false, _, .falsity, of_skip_word htail⟩
  next =>
  split at htail
  next hc =>
    subst hc
    obtain ⟨n, htext⟩ := exists_numeral (of_skip htail)
    exact ⟨.numeral n, _, .numeral n, htext⟩
  next =>
  split at htail
  next hc =>
    obtain ⟨n, htext⟩ := exists_numeral htail
    exact ⟨.numeral n, _, .numeral n, htext⟩
  next =>
  split at htail
  next hc =>
    subst hc
    obtain ⟨value, _, htext, hpure⟩ := of_bind (of_skip htail)
    obtain ⟨inside, hinside, hothers⟩ := of_text htext
    refine ⟨.string value, _, .string hinside, ?_⟩
    rw [hothers, (of_pure hpure).2, List.cons_append, List.append_assoc]
    rfl
  next =>
  split at htail
  next hc =>
    subst hc
    cases levels with
    | zero => exact absurd htail not_failNext
    | succ levels =>
        obtain ⟨_, _, hread, hpure⟩ := of_bind (of_skip htail)
        obtain ⟨items, inside, hspelling, hothers⟩ := hitems hread
        refine ⟨.array items, _, hspelling, ?_⟩
        rw [hothers, (of_pure hpure).2]
        rfl
  next =>
  split at htail
  next hc =>
    subst hc
    cases levels with
    | zero => exact absurd htail not_failNext
    | succ levels =>
        obtain ⟨_, _, hread, hpure⟩ := of_bind (of_skip htail)
        obtain ⟨members, inside, hspelling, hothers⟩ := hmembers hread
        refine ⟨.object members, _, hspelling, ?_⟩
        rw [hothers, (of_pure hpure).2]
        rfl
  next => exact absurd htail not_failNext

/-- An item and those behind it, with blanks in front. -/
theorem of_item {levels : Nat} {cs rest : List Char} {read : List Json}
    (h : Went (do
      let item ← valueWithin fuel levels
      let others ← moreItemsWithin fuel levels
      pure (item :: others)) cs read rest)
    (hvalue : ∀ {cs document rest}, Went (valueWithin fuel levels) cs document rest →
      ∃ blanks written inside, AreBlank blanks ∧ Spelling written inside ∧
        cs = blanks ++ (inside ++ rest))
    (hmore : ∀ {cs read rest}, Went (moreItemsWithin fuel levels) cs read rest →
      ∃ items inside, ItemsBehind items inside ∧ cs = inside ++ rest) :
    ∃ blanks item inside items tail, AreBlank blanks ∧ Spelling item inside ∧
      ItemsBehind items tail ∧ cs = blanks ++ (inside ++ (tail ++ rest)) := by
  obtain ⟨_, _, hfirst, htail⟩ := of_bind h
  obtain ⟨_, _, hothers, hpure⟩ := of_bind htail
  obtain ⟨blanks, item, inside, hblanks, hitem, rfl⟩ := hvalue hfirst
  obtain ⟨items, tail, hitems, rfl⟩ := hmore hothers
  exact ⟨blanks, item, inside, items, tail, hblanks, hitem, hitems, by rw [(of_pure hpure).2]⟩

end Steps

mutual

/-- What was read as a value is a spelling of one behind blanks. -/
theorem of_valueWithin : ∀ (fuel levels : Nat) {cs rest : List Char} {document : Json},
    Went (valueWithin fuel levels) cs document rest →
      ∃ blanks written inside, AreBlank blanks ∧ Spelling written inside ∧
        cs = blanks ++ (inside ++ rest)
  | 0, _, _, _, _, h => by
      unfold valueWithin at h
      exact absurd h not_failHere
  | fuel + 1, _, _, _, _, h =>
      of_value h (fun {levels _ _ _} => of_itemsWithin fuel levels)
        (fun {levels _ _ _} => of_membersWithin fuel levels)

/-- What was read as items, up to their bracket, spells a list. -/
theorem of_itemsWithin : ∀ (fuel levels : Nat) {cs rest : List Char} {read : List Json},
    Went (itemsWithin fuel levels) cs read rest →
      ∃ items inside, Spelling (.array items) ('[' :: inside) ∧ cs = inside ++ rest
  | 0, _, _, _, _, h => by
      unfold itemsWithin at h
      exact absurd h not_failHere
  | fuel + 1, levels, _, rest, _, h => by
      unfold itemsWithin at h
      obtain ⟨blanks, c, others, hblanks, rfl, htail⟩ :=
        exists_cons_of_peekToken h not_failHere
      dsimp only at htail
      split at htail
      next hc =>
        subst hc
        refine ⟨[], _, .emptyArray hblanks, ?_⟩
        rw [of_skip_pure htail, List.append_assoc]
        rfl
      next =>
        obtain ⟨inner, item, inside, items, tail, hinner, hitem, hitems, htext⟩ :=
          of_item htail (of_valueWithin fuel levels) (of_moreItemsWithin fuel levels)
        refine ⟨item :: items, _, .array (AreBlank.append hblanks hinner) hitem hitems, ?_⟩
        rw [htext]
        simp only [List.append_assoc]

theorem of_moreItemsWithin : ∀ (fuel levels : Nat) {cs rest : List Char} {read : List Json},
    Went (moreItemsWithin fuel levels) cs read rest →
      ∃ items inside, ItemsBehind items inside ∧ cs = inside ++ rest
  | 0, _, _, _, _, h => by
      unfold moreItemsWithin at h
      exact absurd h not_failHere
  | fuel + 1, levels, _, rest, _, h => by
      unfold moreItemsWithin at h
      obtain ⟨blanks, c, others, hblanks, rfl, htail⟩ :=
        exists_cons_of_peekToken h not_failHere
      dsimp only at htail
      split at htail
      next hc =>
        subst hc
        refine ⟨[], _, .close hblanks, ?_⟩
        rw [of_skip_pure htail, List.append_assoc]
        rfl
      next =>
      split at htail
      next hc =>
        subst hc
        obtain ⟨behind, d, others, hbehind, rfl, hnext⟩ :=
          exists_cons_of_peekToken (of_skip htail) not_failHere
        dsimp only at hnext
        split at hnext
        next => exact absurd hnext not_failNext
        next =>
          obtain ⟨inner, item, inside, items, tail, hinner, hitem, hitems, htext⟩ :=
            of_item hnext (of_valueWithin fuel levels) (of_moreItemsWithin fuel levels)
          refine ⟨item :: items, _,
            .more hblanks (AreBlank.append hbehind hinner) hitem hitems, ?_⟩
          rw [htext]
          simp only [List.append_assoc, List.cons_append]
      next => exact absurd htail not_failNext

/-- What was read as members, up to their brace, spells an object. -/
theorem of_membersWithin : ∀ (fuel levels : Nat) {cs rest : List Char}
    {read : List (String × Json)}, Went (membersWithin fuel levels) cs read rest →
      ∃ members inside, Spelling (.object members) ('\x7b' :: inside) ∧ cs = inside ++ rest
  | 0, _, _, _, _, h => by
      unfold membersWithin at h
      exact absurd h not_failHere
  | fuel + 1, levels, _, rest, _, h => by
      unfold membersWithin at h
      obtain ⟨blanks, c, others, hblanks, rfl, htail⟩ :=
        exists_cons_of_peekToken h not_failHere
      dsimp only at htail
      split at htail
      next hc =>
        subst hc
        refine ⟨[], _, .emptyObject hblanks, ?_⟩
        rw [of_skip_pure htail, List.append_assoc]
        rfl
      next =>
      split at htail
      next hc =>
        subst hc
        obtain ⟨members, inside, hmembers, rfl⟩ := of_memberWithin fuel levels (of_skip htail)
        refine ⟨members, _, .object hblanks hmembers, ?_⟩
        simp only [List.append_assoc, List.cons_append]
      next => exact absurd htail not_failNext

theorem of_memberWithin : ∀ (fuel levels : Nat) {cs rest : List Char}
    {read : List (String × Json)}, Went (memberWithin fuel levels) cs read rest →
      ∃ members inside, MembersFrom members ('"' :: inside) ∧ cs = inside ++ rest
  | 0, _, _, _, _, h => by
      unfold memberWithin at h
      exact absurd h not_failHere
  | fuel + 1, levels, _, rest, _, h => by
      unfold memberWithin at h
      obtain ⟨name, middle, hname, hnext⟩ := of_bind h
      obtain ⟨inside, hinside, rfl⟩ := of_text hname
      obtain ⟨before, c, others, hbefore, rfl, htail⟩ :=
        exists_cons_of_peekToken hnext not_failHere
      dsimp only at htail
      split at htail
      next hc =>
        subst hc
        obtain ⟨_, _, hvalue, hmore⟩ := of_bind (of_skip htail)
        obtain ⟨_, _, hothers, hpure⟩ := of_bind hmore
        obtain ⟨behind, written, cs, hbehind, hspelling, rfl⟩ := of_valueWithin fuel levels hvalue
        obtain ⟨members, tail, hmembers, rfl⟩ := of_moreMembersWithin fuel levels hothers
        refine ⟨(name, written) :: members, _,
          .member hinside hbefore hbehind hspelling hmembers, ?_⟩
        rw [(of_pure hpure).2]
        simp only [List.append_assoc, List.cons_append]
      next => exact absurd htail not_failNext

theorem of_moreMembersWithin : ∀ (fuel levels : Nat) {cs rest : List Char}
    {read : List (String × Json)}, Went (moreMembersWithin fuel levels) cs read rest →
      ∃ members inside, MembersBehind members inside ∧ cs = inside ++ rest
  | 0, _, _, _, _, h => by
      unfold moreMembersWithin at h
      exact absurd h not_failHere
  | fuel + 1, levels, _, rest, _, h => by
      unfold moreMembersWithin at h
      obtain ⟨blanks, c, others, hblanks, rfl, htail⟩ :=
        exists_cons_of_peekToken h not_failHere
      dsimp only at htail
      split at htail
      next hc =>
        subst hc
        refine ⟨[], _, .close hblanks, ?_⟩
        rw [of_skip_pure htail, List.append_assoc]
        rfl
      next =>
      split at htail
      next hc =>
        subst hc
        obtain ⟨behind, d, others, hbehind, rfl, hnext⟩ :=
          exists_cons_of_peekToken (of_skip htail) not_failHere
        dsimp only at hnext
        split at hnext
        next hd =>
          subst hd
          obtain ⟨members, inside, hmembers, rfl⟩ :=
            of_memberWithin fuel levels (of_skip hnext)
          refine ⟨members, _, .more hblanks hbehind hmembers, ?_⟩
          simp only [List.append_assoc, List.cons_append]
        next =>
          split at hnext
          next => exact absurd hnext not_failNext
          next => exact absurd hnext not_failNext
      next => exact absurd htail not_failNext

end

theorem not_refuseType {α : Type} {expected : String} {cs rest : List Char} {a : α} :
    ¬ Went (refuseType expected) cs a rest := by
  intro h
  unfold refuseType at h
  obtain ⟨blanks, c, others, -, -, htail⟩ :=
    exists_cons_of_peekToken h not_failHere
  dsimp only at htail
  split at htail
  next => exact absurd htail not_failHere
  next =>
    split at htail
    next => exact absurd htail not_failHere
    next =>
      obtain ⟨_, _, _, hfail⟩ := of_bind htail
      exact absurd hfail not_failHere

/-- Where a whole text has been read, blanks are left behind what the reader has read. -/
theorem of_run {α : Type} {reader : Reader α} {text : String} {a : α}
    (h : reader.run text = .ok a) : ∃ rest, Went reader text.toList a rest ∧ AreBlank rest := by
  rw [run] at h
  cases hreader : reader (Cursor.start text.toList) with
  | error error =>
      rw [hreader] at h
      cases h
  | ok answer =>
      obtain ⟨value, rest, place⟩ := answer
      rw [hreader] at h
      change (atEnd ⟨rest, place⟩ >>= fun _ => Except.ok value) = _ at h
      cases hend : atEnd ⟨rest, place⟩ with
      | error error =>
          rw [hend] at h
          cases h
      | ok ended =>
          rw [hend] at h
          cases h
          refine ⟨rest, ⟨.start, place, hreader⟩, ?_⟩
          have hwent : Went atEnd rest ended.1 ended.2.rest := ⟨place, ended.2.place, hend⟩
          unfold atEnd at hwent
          obtain ⟨blanks, middle, hblanks, rfl, htail⟩ := of_peekToken hwent
          cases middle with
          | nil => rwa [List.append_nil]
          | cons c others => exact absurd htail not_failNext

end Went

theorem mapError_eq_ok_iff {ε ε' α : Type} (f : ε → ε') {result : Except ε α} {a : α} :
    result.mapError f = .ok a ↔ result = .ok a := by
  cases result with
  | ok b =>
      constructor
      · intro h
        cases h
        rfl
      · intro h
        cases h
        rfl
  | error error =>
      constructor
      · intro h
        cases h
      · intro h
        cases h

/-- A text is read as a tree when it is the text of a document that has this tree. -/
theorem parse_eq_ok_iff {text : String} {document : Json} :
    Json.parse text = .ok document ↔
      ∃ written, IsTextOf written text ∧ written.read maxLevels = .ok document := by
  constructor
  · intro h
    obtain ⟨back, hwent, hback⟩ := Went.of_run h
    obtain ⟨front, written, inside, hfront, hspelling, hcs⟩ :=
      Went.of_valueWithin _ maxLevels (Went.of_fuelLeft hwent)
    have htext : IsTextOf written text := ⟨front, inside, back, hfront, hspelling, hback, hcs⟩
    refine ⟨written, htext, ?_⟩
    rw [← parse_mapError_fault htext, h]
    rfl
  · rintro ⟨written, htext, hread⟩
    rw [← mapError_eq_ok_iff Error.fault, parse_mapError_fault htext, hread]

/-- The members of a text are read when it is the text of an object whose members have trees. -/
theorem run_members_eq_ok_iff {levels : Nat} {expected text : String}
    {read : List (String × Json)} :
    (Reader.members (levels + 1) expected).run text = .ok read ↔
      ∃ members, IsTextOf (.object members) text ∧ Written.readMembers levels members = .ok read := by
  constructor
  · intro h
    obtain ⟨back, hwent, hback⟩ := Went.of_run h
    suffices htext : ∃ members, IsTextOf (.object members) text by
      obtain ⟨members, htext⟩ := htext
      refine ⟨members, htext, ?_⟩
      rw [← members_mapError_fault htext levels expected, h]
      rfl
    unfold Reader.members at hwent
    obtain ⟨front, c, others, hfront, hcs, htail⟩ :=
      Went.exists_cons_of_peekToken hwent Went.not_failHere
    dsimp only at htail
    split at htail
    next hc =>
      subst hc
      obtain ⟨members, inside, hspelling, rfl⟩ :=
        Went.of_membersWithin _ levels (Went.of_fuelLeft (Went.of_skip htail))
      exact ⟨members, front, _, back, hfront, hspelling, hback, hcs⟩
    next => exact absurd htail Went.not_refuseType
  · rintro ⟨members, htext, hread⟩
    rw [← mapError_eq_ok_iff Error.fault, members_mapError_fault htext, hread]

end Json

end RequestFilter
