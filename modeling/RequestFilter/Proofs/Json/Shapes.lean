import RequestFilter.Proofs.Json.Decided

/-!
# Lists and records of known types

A list is read item by item, and a record takes the members of an object one after
the other: those that it knows by their readers, and the others are passed over.
What comes of it is told from the document, whatever the blanks and escapes of its
text.
-/

namespace RequestFilter

namespace Json

open Reader TypedReader

section Brackets

variable {α : Type} {cs middle rest : List Char}

/-- A list is read up to its end. -/
theorem Decides.list_behind {body : TypedReader α} {answer : Option α} {tail : List Char}
    (hend : ItemsBehind [] tail) (h : Decides body cs answer (tail ++ rest)) :
    Decides (TypedReader.list body) cs answer rest := by
  refine h.close (some ()) ?_ Cursor.afterListEnd
  cases hend with
  | close hblanks =>
      rw [List.append_assoc]
      refine (goes_peekToken_cons hblanks (by decide) rest).bind ?_
      exact goes_skip ']' rest

theorem Decides.list {body : TypedReader α} {answer : Option α}
    (h : Decides body cs answer (']' :: rest)) : Decides (TypedReader.list body) cs answer rest :=
  list_behind (.close areBlank_nil) h

theorem Decides.object {body : TypedReader α} {answer : Option α}
    (h : Decides body cs answer ('\x7d' :: rest)) :
    Decides (TypedReader.object body) cs answer rest := by
  refine h.close (some ()) ?_ Cursor.afterObjectEnd
  refine (goes_peekToken_cons areBlank_nil (by decide) rest).bind ?_
  exact goes_skip '\x7d' rest

/-- A list of which no more items are wanted is refused if it has one more. -/
theorem decides_list_longer {body : TypedReader α} {answer : Option α} {item : Written}
    {items : List Written} {tail : List Char} (hitems : ItemsBehind (item :: items) tail)
    (h : Decides body cs answer (tail ++ rest)) : Decides (TypedReader.list body) cs none rest := by
  refine h.close none ?_ Cursor.afterListEnd
  cases hitems with
  | @more _ _ before behind inside tail hbefore hbehind hitem hitems =>
      rw [List.append_assoc, List.cons_append]
      refine (goes_peekToken_cons hbefore (by decide) _).decides ?_
      refine Refuses.decides (refuses_bind fun _ => refuses_bind fun seen => ?_) _ _
      split
      next => exact refuses_failNext _
      next => exact refuses_failNext _

end Brackets

/-- What a reader is given for its work is more than what it reads. -/
theorem lt_fuelLeft (cs rest : List Char) : cs.length < 2 * (cs ++ rest).length + 2 := by
  simp only [List.length_append]
  omega

section Items

/-- Where items of a list are read: behind its bracket, or behind another item. -/
inductive ItemsAt : Bool → List Written → List Char → Prop
  | first {items : List Written} {cs : List Char} (h : Spelling (.array items) ('[' :: cs)) :
      ItemsAt true items cs
  | next {items : List Written} {cs : List Char} (h : ItemsBehind items cs) :
      ItemsAt false items cs

theorem goes_hasItem_end {blanks : List Char} (hblanks : AreBlank blanks) (first : Bool)
    (rest : List Char) : Goes (hasItem first) (blanks ++ ']' :: rest) false (']' :: rest) := by
  refine (goes_peekToken_cons hblanks rfl rest).bind ?_
  exact .pure false _

theorem goes_hasItem_nil {first : Bool} {cs : List Char} (h : ItemsAt first [] cs)
    (rest : List Char) : Goes (hasItem first) (cs ++ rest) false (']' :: rest) := by
  obtain ⟨blanks, hblanks, rfl⟩ : ∃ blanks, AreBlank blanks ∧ cs = blanks ++ [']'] := by
    cases h with
    | first h => cases h with | emptyArray hblanks => exact ⟨_, hblanks, rfl⟩
    | next h => cases h with | close hblanks => exact ⟨_, hblanks, rfl⟩
  rw [List.append_assoc]
  exact goes_hasItem_end hblanks first rest

/-- The next item stands behind a comma, unless it is the first one. -/
theorem exists_item {first : Bool} {item : Written} {items : List Written} {cs : List Char}
    (h : ItemsAt first (item :: items) cs) :
    ∃ inside tail, Spelling item inside ∧ ItemsBehind items tail ∧ tail.length < cs.length ∧
      ∀ rest, Goes (hasItem first) (cs ++ rest) true (inside ++ (tail ++ rest)) := by
  cases h with
  | first h =>
      cases h with
      | @array _ _ blanks inside tail hblanks hitem hitems =>
          have hpos := hitem.length_pos
          refine ⟨inside, tail, hitem, hitems, ?_, fun rest => ?_⟩
          · simp only [List.length_append]
            omega
          · obtain ⟨c, others, rfl, hblank, hclose⟩ := hitem.exists_cons
            rw [List.append_assoc, List.append_assoc]
            refine (goes_peekToken_cons hblanks hblank _).bind ?_
            dsimp only
            rw [if_neg hclose]
            exact .pure true _
  | next h =>
      cases h with
      | @more _ _ before behind inside tail hbefore hbehind hitem hitems =>
          refine ⟨inside, tail, hitem, hitems, ?_, fun rest => ?_⟩
          · simp only [List.length_append, List.length_cons]
            omega
          · obtain ⟨c, others, rfl, hblank, hclose⟩ := hitem.exists_cons
            rw [List.append_assoc, List.cons_append, List.append_assoc, List.append_assoc]
            refine (goes_peekToken_cons hbefore (by decide) _).bind ?_
            refine (goes_skip ',' _).bind ?_
            refine (goes_peekToken_cons hbehind hblank _).bind ?_
            dsimp only
            rw [if_neg hclose]
            exact .pure true _

/-- A list has an answer if all of its items have one. -/
theorem decides_items {α : Type} {item : TypedReader α} {meaning : Written → Option α}
    (hitem : Denotes item meaning) {items : List Written} (hplain : ∀ item ∈ items, item.IsPlain)
    {first : Bool} {cs : List Char} (h : ItemsAt first items cs) {fuel : Nat}
    (hfuel : cs.length < fuel) (rest : List Char) :
    Decides (TypedReader.items item fuel first) (cs ++ rest) (items.mapM meaning)
      (']' :: rest) := by
  obtain ⟨fuel, rfl⟩ := Nat.exists_eq_succ_of_ne_zero (n := fuel) (by omega)
  induction items generalizing first cs fuel with
  | nil =>
      rw [TypedReader.items]
      exact (goes_hasItem_nil h rest).ofReader.decides (.pure [] _)
  | cons written others ih =>
      obtain ⟨hwritten, hothers⟩ := List.forall_mem_cons.mp hplain
      obtain ⟨inside, tail, hspelling, htail, hlength, hgoes⟩ := exists_item h
      have hvalue := hitem hwritten hspelling areBlank_nil (htail.endsNumeral rest)
      obtain ⟨fuel, rfl⟩ := Nat.exists_eq_succ_of_ne_zero (n := fuel) (by omega)
      rw [TypedReader.items, List.mapM_cons]
      refine (hgoes rest).ofReader.decides (hvalue.bind fun value => ?_)
      exact (ih hothers (.next htail) fuel (by omega)).bind fun values => .pure _ _

end Items

section Members

/-- Where members of an object are read: behind its brace, or behind another member. -/
inductive MembersAt : Bool → List (String × Written) → List Char → Prop
  | first {members : List (String × Written)} {cs : List Char}
      (h : Spelling (.object members) ('\x7b' :: cs)) : MembersAt true members cs
  | next {members : List (String × Written)} {cs : List Char} (h : MembersBehind members cs) :
      MembersAt false members cs

theorem goes_nextName_nil {first : Bool} {cs : List Char} (h : MembersAt first [] cs)
    (rest : List Char) : Goes (nextName first) (cs ++ rest) none ('\x7d' :: rest) := by
  obtain ⟨blanks, hblanks, rfl⟩ : ∃ blanks, AreBlank blanks ∧ cs = blanks ++ ['\x7d'] := by
    cases h with
    | first h =>
        cases h with
        | emptyObject hblanks => exact ⟨_, hblanks, rfl⟩
        | object hblanks hmembers => cases hmembers
    | next h =>
        cases h with
        | close hblanks => exact ⟨_, hblanks, rfl⟩
        | more hbefore hbehind hmembers => cases hmembers
  rw [List.append_assoc]
  exact (goes_peekToken_cons hblanks (by decide) rest).bind (.pure none _)

/-- The next member stands behind a comma, unless it is the first one. -/
theorem exists_member {first : Bool} {name : String} {value : Written}
    {members : List (String × Written)} {cs : List Char}
    (h : MembersAt first ((name, value) :: members) cs) :
    ∃ before behind inside tail, AreBlank before ∧ AreBlank behind ∧ Spelling value inside ∧
      MembersBehind members tail ∧ tail.length < cs.length ∧
      ∀ rest, Goes (nextName first) (cs ++ rest) (some name)
        (before ++ ':' :: (behind ++ (inside ++ (tail ++ rest)))) := by
  cases h with
  | first h =>
      cases h with
      | @object _ blanks _ hblanks hmembers =>
          cases hmembers with
          | @member _ _ _ written before behind inside tail hname hbefore hbehind hvalue hmembers =>
              refine ⟨before, behind, inside, tail, hbefore, hbehind, hvalue, hmembers, ?_,
                fun rest => ?_⟩
              · simp only [List.length_append, List.length_cons]
                omega
              · simp only [List.append_assoc, List.cons_append]
                refine (goes_peekToken_cons hblanks (by decide) _).bind ?_
                exact (goes_skip '"' _).bind ((goes_text_of_textSpelling hname _).map some)
  | next h =>
      cases h with
      | @more _ leading trailing _ hleading htrailing hmembers =>
          cases hmembers with
          | @member _ _ _ written before behind inside tail hname hbefore hbehind hvalue hmembers =>
              refine ⟨before, behind, inside, tail, hbefore, hbehind, hvalue, hmembers, ?_,
                fun rest => ?_⟩
              · simp only [List.length_append, List.length_cons]
                omega
              · simp only [List.append_assoc, List.cons_append]
                refine (goes_peekToken_cons hleading (by decide) _).bind ?_
                refine (goes_skip ',' _).bind ?_
                refine (goes_peekToken_cons htrailing (by decide) _).bind ?_
                exact (goes_skip '"' _).bind ((goes_text_of_textSpelling hname _).map some)

theorem goes_colon_behind {blanks : List Char} (hblanks : AreBlank blanks) (cs : List Char) :
    Goes colon (blanks ++ ':' :: cs) () cs := by
  refine (goes_peekToken_cons hblanks (by decide) cs).bind ?_
  exact goes_skip ':' cs

section Once

variable {α : Type} {value : Reader α} {meaning : Written → Option α}

/-- The value of a member, unless there is one already. -/
def once? (meaning : Written → Option α) (present : Option α) (written : Written) : Option α :=
  if present.isSome then none else meaning written

theorem decides_once (hvalue : Denotes value meaning) (name : String) (present : Option α)
    {written : Written} {cs before behind rest : List Char} (hplain : written.IsPlain)
    (h : Spelling written cs) (hbefore : AreBlank before) (hbehind : AreBlank behind)
    (hrest : EndsNumeral rest) :
    Decides (once name present value) (before ++ ':' :: (behind ++ (cs ++ rest)))
      (once? meaning present written) rest := by
  unfold once once?
  split
  next => exact (refuses_refuse _).decides _ _
  next =>
    refine (goes_colon_behind hbefore _).ofReader.decides ?_
    exact (hvalue hplain h hbehind hrest).ofReader

end Once

variable {σ : Type} {known : String → Option (σ → TypedReader σ)}
  {take : σ → String × Written → Option σ}

/-- What a record becomes by each member, of which those that it does not know change nothing. -/
structure Accepts (known : String → Option (σ → TypedReader σ))
    (take : σ → String × Written → Option σ) : Prop where
  taken : ∀ ⦃name : String⦄ ⦃read : σ → TypedReader σ⦄, known name = some read →
    ∀ (record : σ) ⦃written : Written⦄ ⦃cs before behind rest : List Char⦄, written.IsPlain →
      Spelling written cs → AreBlank before → AreBlank behind → EndsNumeral rest →
        Decides (read record) (before ++ ':' :: (behind ++ (cs ++ rest)))
          (take record (name, written)) rest
  passed : ∀ ⦃name : String⦄, known name = none →
    ∀ (record : σ) (written : Written), take record (name, written) = some record

/-- A record takes all members of an object, if it takes each. -/
theorem decides_membersInto (htake : Accepts known take) {members : List (String × Written)}
    (hplain : ∀ member ∈ members, member.2.IsPlain) {first : Bool} {cs : List Char}
    (h : MembersAt first members cs) {fuel : Nat} (hfuel : cs.length < fuel) (record : σ)
    (rest : List Char) :
    Decides (membersInto known fuel first record) (cs ++ rest) (members.foldlM take record)
      ('\x7d' :: rest) := by
  obtain ⟨fuel, rfl⟩ := Nat.exists_eq_succ_of_ne_zero (n := fuel) (by omega)
  induction members generalizing first cs fuel record with
  | nil =>
      rw [membersInto]
      exact (goes_nextName_nil h rest).ofReader.decides (.pure record _)
  | cons member others ih =>
      obtain ⟨name, written⟩ := member
      obtain ⟨hwritten, hothers⟩ := List.forall_mem_cons.mp hplain
      obtain ⟨before, behind, inside, tail, hbefore, hbehind, hspelling, htail, hlength, hgoes⟩ :=
        exists_member h
      obtain ⟨fuel, rfl⟩ := Nat.exists_eq_succ_of_ne_zero (n := fuel) (by omega)
      have hmore := fun after => ih hothers (.next htail) after fuel (by omega)
      rw [membersInto, List.foldlM_cons]
      refine (hgoes rest).ofReader.decides ?_
      dsimp only
      cases hknown : known name with
      | some read =>
          exact (htake.taken hknown record hwritten hspelling hbefore hbehind
            (htail.endsNumeral rest)).bind hmore
      | none =>
          rw [htake.passed hknown]
          refine (goes_colon_behind hbefore _).ofReader.decides ?_
          refine (goes_passValue hspelling hbehind (htail.endsNumeral rest)).ofReader.decides ?_
          exact hmore record

end Members

section Records

variable {α : Type}

/-- A record is given by the members of an object, or by the items of a list. -/
def record (expected : String) (members items : TypedReader α) : Reader α := do
  match ← peekToken with
  | none => failHere .endInValue
  | some c =>
      if c = '\x7b' then do
        skip
        TypedReader.object members
      else if c = '[' then do
        skip
        TypedReader.list items
      else refuseType expected

/-- What a record is by its members or by its items. -/
def recordOf? (ofMembers : List (String × Written) → Option α) (ofItems : List Written → Option α) :
    Written → Option α
  | .object members => ofMembers members
  | .array items => ofItems items
  | _ => none

variable {expected : String} {members items : TypedReader α}
  {ofMembers : List (String × Written) → Option α} {ofItems : List Written → Option α}

theorem decides_record_object {given : List (String × Written)} {cs blanks rest : List Char}
    (h : Spelling (.object given) cs) (hblanks : AreBlank blanks)
    (hmembers : ∀ ⦃inside : List Char⦄, MembersAt true given inside →
      Decides members (inside ++ rest) (ofMembers given) ('\x7d' :: rest)) :
    Decides (record expected members items) (blanks ++ (cs ++ rest)) (ofMembers given) rest := by
  obtain ⟨c, others, rfl, hopens⟩ := h.exists_opens
  obtain rfl := hopens.object.mpr ⟨given, rfl⟩
  rw [List.cons_append]
  refine (goes_peekToken_cons hblanks (by decide) _).decides ?_
  exact (goes_skip _ _).decides (hmembers (.first h)).object

theorem denotes_record
    (hmembers : ∀ ⦃given : List (String × Written)⦄ ⦃inside rest : List Char⦄,
      Written.IsPlain (.object given) → MembersAt true given inside →
        Decides members (inside ++ rest) (ofMembers given) ('\x7d' :: rest))
    (hitems : ∀ ⦃given : List Written⦄ ⦃inside rest : List Char⦄,
      Written.IsPlain (.array given) → ItemsAt true given inside →
        Decides (TypedReader.list items) (inside ++ rest) (ofItems given) rest) :
    Denotes (record expected members items) (recordOf? ofMembers ofItems) := by
  intro written cs blanks rest hplain h hblanks hrest
  by_cases hobject : ∃ given, written = .object given
  · obtain ⟨given, rfl⟩ := hobject
    exact decides_record_object h hblanks fun _ => hmembers hplain
  obtain ⟨c, others, rfl, hopens⟩ := h.exists_opens
  rw [List.cons_append]
  refine (goes_peekToken_cons hblanks hopens.notBlank _).decides ?_
  dsimp only
  rw [if_neg (hopens.object.not.mpr hobject)]
  by_cases hlist : ∃ given, written = .array given
  · obtain ⟨given, rfl⟩ := hlist
    obtain rfl := hopens.list.mpr ⟨given, rfl⟩
    exact (goes_skip _ _).decides (hitems hplain (.first h))
  · have hnone : recordOf? ofMembers ofItems written = none := by
      cases written with
      | object given => exact absurd ⟨given, rfl⟩ hobject
      | array given => exact absurd ⟨given, rfl⟩ hlist
      | _ => rfl
    rw [if_neg (hopens.list.not.mpr hlist), hnone]
    exact (refuses_refuseType _).decides _ _

end Records

end Json

end RequestFilter
