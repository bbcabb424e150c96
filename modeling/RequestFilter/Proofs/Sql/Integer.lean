import RequestFilter.Proofs.Bag.Operands
import RequestFilter.Proofs.Json.Integers
import RequestFilter.Proofs.Sql.Standing

/-!
# Integers from a document to a statement

The numeral of an integer of 64 bits stands in the statement as it is written in
the document, in the list of an exact field or in the pattern of a pattern field.
Any other integer becomes a double, or the document is refused for it.
-/

namespace RequestFilter

open Json

namespace Sql

/-- A column among the items of a list. -/
def membershipTokens (field : QualifiedField) (items : List Token) : List Token :=
  [.mark .opening, .name field.table, .mark .period, .name field.field, .mark .among,
    .mark .opening] ++ (commaTokens (items.map fun item => [item]) ++
      [.mark .closing, .mark .closing])

/-- A column that contains a text in either case of its letters, by a bound pattern. -/
def containmentTokens (field : QualifiedField) (pattern : String) : List Token :=
  [.mark .opening, .name field.table, .mark .period, .name field.field,
    .mark (.sign .likeIgnoringCase), .bound pattern, .mark .closing]

theorem tokens_membership_eq (field : QualifiedField) {values : List Scalar} (h : values ≠ []) :
    (membership field values).tokens = membershipTokens field (values.map literalToken) := by
  rw [tokens_membership field h, membershipTokens, operandTokens, List.map_map]
  rfl

theorem tokens_containment_eq (field : QualifiedField) (pattern : String) :
    (fieldComparison field .likeIgnoringCase (.string pattern)).tokens =
      containmentTokens field pattern :=
  rfl

end Sql

open Sql

theorem escapePattern_eq_self {cs : List Char} (h : ∀ c ∈ cs, isPatternSpecial c = false) :
    escapePattern cs = cs := by
  induction cs with
  | nil => rfl
  | cons c rest ih =>
      obtain ⟨hc, hrest⟩ := List.forall_mem_cons.mp h
      rw [escapePattern, if_neg (Bool.eq_false_iff.mp hc), ih hrest]

/-- Digits and signs have no meaning in patterns. -/
theorem containsPattern_text {n : Numeral} (h : n.IsInteger) :
    containsPattern (String.ofList n.text) = String.ofList ('%' :: n.text ++ ['%']) := by
  have hplain : ∀ c ∈ n.whole, isPatternSpecial c = false := by
    intro c hc
    have hdigit := n.areWhole c hc
    simp only [isPatternSpecial, Bool.or_eq_false_iff, decide_eq_false_iff_not]
    refine ⟨⟨?_, ?_⟩, ?_⟩
    all_goals
      rintro rfl
      exact absurd hdigit (by decide)
  have htext : ∀ c ∈ n.text, isPatternSpecial c = false := by
    rw [Numeral.text_of_isInteger h]
    cases n.negative with
    | false => exact hplain
    | true => exact List.forall_mem_cons.mpr ⟨by decide, hplain⟩
  rw [containsPattern, String.toList_ofList, containsChars, escapePattern_eq_self htext]

/-- A numeral among the operands of a field is the scalar of its number, in the same place, unless
the text is refused because there is no such number. -/
theorem Bag.exists_scalar_of_numeral {text : String} {members : List (String × Written)}
    (htext : IsTextOf (.object members) text) (hdepth : (Written.object members).depth ≤ maxLevels)
    {field : String} {written : Written}
    (hlast : (members.filter fun member => member.1 = field).getLast? = some (field, written))
    {place : Nat} {n : Numeral} (hplace : written.operands[place]? = some (.numeral n))
    (hothers : ∀ other ∈ (Written.object members).numerals, other ≠ n → other.number? ≠ none) :
    (∃ bag value found, Bag.parse text = .ok bag ∧ bag.find? field = some value ∧
      value.scalars.length = written.operands.length ∧ n.number? = some found ∧
        value.scalars[place]? = some found.toScalar) ∨
      n.number? = none ∧ ∃ place, Bag.parse text = .error (.malformed ⟨.numberOutOfRange, place⟩) := by
  cases hread : Written.readMembers (maxLevels - 1) members with
  | ok read =>
      obtain ⟨value, hvalue, hscalars⟩ := Bag.exists_value_of_readMembers hread hlast
      have hparse : Bag.parse text = .ok (Bag.ofMembers read) :=
        Bag.parse_eq_ok_iff_isRead.mpr ⟨read, ⟨members, htext, hread⟩, rfl⟩
      have hlength : value.scalars.length = written.operands.length := by
        simpa using congrArg List.length hscalars
      have hscalar : value.scalars[place]?.map some = some (n.number?.map Number.toScalar) := by
        rw [← List.getElem?_map, hscalars, List.getElem?_map, hplace]
        rfl
      obtain ⟨scalar, hfound, hnumber⟩ := Option.map_eq_some_iff.mp hscalar
      obtain ⟨found, hn, rfl⟩ := Option.map_eq_some_iff.mp hnumber.symm
      exact .inl ⟨_, value, found, hparse, hvalue, hlength, hn, hfound⟩
  | error fault =>
      obtain ⟨spot, hparse⟩ := Bag.parse_of_readMembers_eq_error htext hread
      have hdue := Written.isDue_of_readMembers (maxLevels - 1) members hread
      cases hdue with
      | nestedTooDeep hdeep =>
          have hlevels : Written.membersDepth members + 1 ≤ 127 := hdepth
          have hmore : 126 < Written.membersDepth members := hdeep
          omega
      | @numberOutOfRange other hother hnone =>
          by_cases hsame : other = n
          · rw [hsame] at hnone
            exact .inr ⟨hnone, spot, hparse⟩
          · exact absurd hnone (hothers other hother hsame)

namespace Definition

section Predicates

variable {definition : Definition Select TargetError} {select : Select} {source : Source}
  {bag : Bag} {field : String} {value : Value} (hsource : select.source = some source)
  (hrule : definition.rules.handler? field = none)
  (hentry : (field, value) ∈ (definition.sanitizer.sanitize bag).bag.entries)

include hsource hrule hentry

/-- The operands of an exact field are the items of its list. -/
theorem filters_membershipTokens (hoperator : definition.spec.operator? field = some .exactOrIn) :
    definition.Filters ⟨source.knownAs⟩ bag select field
      (membershipTokens ⟨source.knownAs, field⟩ (value.scalars.map literalToken)) := by
  have hscalars : value.scalars ≠ [] := (Value.isUsable_iff value).mp
    ((definition.sanitizer.sanitize bag).usable _ hentry)
  have hown : definition.entryPredicates ⟨source.knownAs⟩ (field, value) =
      [membership ⟨source.knownAs, field⟩ value.scalars] := by
    rw [entryPredicates, hoperator]
    exact predicatesOf_exactOrIn _ field hscalars
  rw [← tokens_membership_eq _ hscalars]
  refine filters_of_unruled hsource hrule hentry hown ?_
  rw [membership_eq_among _ hscalars]
  rfl

/-- The first operand of a pattern field stands in its pattern. -/
theorem filters_containmentTokens (hoperator : definition.spec.operator? field = some .like)
    {operand : Scalar} (hoperand : value.scalars.head? = some operand) :
    definition.Filters ⟨source.knownAs⟩ bag select field
      (containmentTokens ⟨source.knownAs, field⟩ (containsPattern operand.text)) := by
  have hown : definition.entryPredicates ⟨source.knownAs⟩ (field, value) =
      [fieldComparison ⟨source.knownAs, field⟩ .likeIgnoringCase
        (.string (containsPattern operand.text))] := by
    rw [entryPredicates, hoperator]
    exact (predicatesOf_like _ field value).trans (by rw [hoperand]; rfl)
  rw [← tokens_containment_eq]
  exact filters_of_unruled hsource hrule hentry hown rfl

end Predicates

/-- In a document that can be read, apart from one numeral for an integer at most, let the numeral
be an operand of a declared field without a rule. If the integer has 64 bits and is not minus zero,
the numeral stands in the statement as it is written, in its place among the operands of an exact
field and between percent signs in the pattern of a pattern field. If not in 64 bits, the operand is
a double, or the document is refused for a number out of range. -/
theorem apply_writes_integer (definition : Definition Select TargetError) (field : String)
    (hrule : definition.rules.handler? field = none)
    (hkeeps : ∀ value : Value, value.isUsable = true → definition.sanitizer.keeps field value = true)
    (select : Select) (source : Source) (hsource : select.source = some source) (text : String)
    (members : List (String × Written)) (htext : IsTextOf (.object members) text)
    (hdepth : (Written.object members).depth ≤ maxLevels) (written : Written)
    (hlast : (members.filter fun member => member.1 = field).getLast? = some (field, written))
    (place : Nat) (n : Numeral) (hinteger : n.IsInteger)
    (hplace : written.operands[place]? = some (.numeral n))
    (hothers : ∀ other ∈ (Written.object members).numerals, other ≠ n → other.number? ≠ none) :
    (-2 ^ 63 ≤ n.integer → n.integer < 2 ^ 63 → ¬ n.IsMinusZero →
      ∃ bag, Bag.parse text = .ok bag ∧
        (definition.spec.operator? field = some .exactOrIn →
          ∃ items, items.length = written.operands.length ∧
            items[place]? = some (.literal (String.ofList n.text)) ∧
            definition.Filters ⟨source.knownAs⟩ bag select field
              (membershipTokens ⟨source.knownAs, field⟩ items)) ∧
        (definition.spec.operator? field = some .like → place = 0 →
          definition.Filters ⟨source.knownAs⟩ bag select field
            (containmentTokens ⟨source.knownAs, field⟩
              (String.ofList ('%' :: n.text ++ ['%']))))) ∧
    (¬(-2 ^ 63 ≤ n.integer ∧ n.integer < 2 ^ 63) →
      (∃ bag value x, Bag.parse text = .ok bag ∧ bag.find? field = some value ∧
        value.scalars[place]? = some (.float x)) ∨
      ∃ place, Bag.parse text = .error (.malformed ⟨.numberOutOfRange, place⟩)) := by
  have hscalar := Bag.exists_scalar_of_numeral htext hdepth hlast hplace hothers
  constructor
  · intro hlower hupper hzero
    obtain ⟨kept, hkept, hint, hwritten⟩ :=
      Numeral.exists_int_of_isInteger hinteger hzero hlower hupper
    rcases hscalar with ⟨bag, value, found, hparse, hvalue, hlength, hfound, hoperand⟩ | ⟨hnone, -⟩
    · obtain rfl : kept = found := Option.some.inj (hkept.symm.trans hfound)
      have husable : value.isUsable = true := by
        refine (Value.isUsable_iff value).mpr fun hempty => ?_
        rw [hempty] at hoperand
        cases hoperand
      have hentry : (field, value) ∈ (definition.sanitizer.sanitize bag).bag.entries :=
        List.mem_filter.mpr ⟨bag.find?_eq_some_iff.mp hvalue, hkeeps value husable⟩
      refine ⟨bag, hparse, fun hoperator => ?_, fun hoperator hfirst => ?_⟩
      · refine ⟨value.scalars.map literalToken, by rw [List.length_map, hlength], ?_, ?_⟩
        · rw [List.getElem?_map, hoperand, ← hwritten, hint]
          rfl
        · exact filters_membershipTokens hsource hrule hentry hoperator
      · rw [← containsPattern_text hinteger, ← hwritten]
        refine filters_containmentTokens hsource hrule hentry hoperator ?_
        rw [List.head?_eq_getElem?, ← hfirst, hoperand]
    · rw [hkept] at hnone
      cases hnone
  · intro hout
    rcases hscalar with ⟨bag, value, found, hparse, hvalue, -, hfound, hoperand⟩ | ⟨-, hrefused⟩
    · obtain ⟨x, hx⟩ := Numeral.exists_float_of_isInteger hinteger hout hfound
      exact .inl ⟨bag, value, x, hparse, hvalue, by rw [hoperand, hx]⟩
    · exact .inr hrefused

/-- Orders by number and customer, with a search rule of their own. -/
def orderSearch : Definition Select TargetError :=
  ⟨⟨.ofList [("id", .exactOrIn), ("ref", .like)]⟩,
    (RuleSet.empty defaultRulePrefix).insertForField "q" (Select.search ["name", "mail"]), .default⟩

/-- Numbers at both ends of the integers and just above them. -/
def boundaryText : String :=
  "\x7b\"id\":[9223372036854775808,-9223372036854775808],\"q\":\"u\",\"ref\":9223372036854775807\x7d"

def leastNumeral : Numeral where
  negative := true
  whole := "9223372036854775808".toList
  fraction := []
  exponent := none
  areWhole := by decide
  isPlain := .inr ⟨'9', "223372036854775808".toList, by decide, by decide⟩
  areFraction := by decide

def greatestNumeral : Numeral where
  negative := false
  whole := "9223372036854775807".toList
  fraction := []
  exponent := none
  areWhole := by decide
  isPlain := .inr ⟨'9', "223372036854775807".toList, by decide, by decide⟩
  areFraction := by decide

def beyondNumeral : Numeral :=
  { leastNumeral with negative := false }

def boundaryMembers : List (String × Written) :=
  [("id", .array [.numeral beyondNumeral, .numeral leastNumeral]), ("q", .string "u"),
    ("ref", .numeral greatestNumeral)]

theorem isTextOf_boundaryText : IsTextOf (.object boundaryMembers) boundaryText := by
  have hids : Spelling (.array [.numeral beyondNumeral, .numeral leastNumeral]) _ :=
    .array areBlank_nil (.numeral beyondNumeral)
      (.more areBlank_nil areBlank_nil (.numeral leastNumeral) (.close areBlank_nil))
  have hmembers : MembersFrom boundaryMembers _ :=
    .member (textSpelling_escaped _) areBlank_nil areBlank_nil hids
      (.more areBlank_nil areBlank_nil
        (.member (textSpelling_escaped _) areBlank_nil areBlank_nil
          (.string (textSpelling_escaped _))
          (.more areBlank_nil areBlank_nil
            (.member (textSpelling_escaped _) areBlank_nil areBlank_nil
              (.numeral greatestNumeral) (.close areBlank_nil)))))
  exact ⟨[], _, [], areBlank_nil, .object areBlank_nil hmembers, areBlank_nil, by decide +kernel⟩

theorem orderSearch_rulesExtend : orderSearch.RulesExtend fun _ => False := by
  intro name handler hhandler target value select
  -- the rules have one entry, which searches if there is something to search for
  cases List.mem_singleton.mp (mem_of_findEntry_eq_some hhandler)
  unfold Select.search
  cases value.scalars with
  | nil => exact .inr ⟨(), select, [], rfl, rfl⟩
  | cons operand _ => exact .inr ⟨(), _, [_], rfl, rfl⟩

/-- The least integer in a list behind one that is just too large, and the greatest in a pattern. -/
theorem apply_writes_integer_boundaries :
    IsTextOf (.object boundaryMembers) boundaryText ∧
      (∃ bag items, Bag.parse boundaryText = .ok bag ∧ items.length = 2 ∧
        items[1]? = some (.literal "-9223372036854775808") ∧
        orderSearch.Writes (fun _ => False) bag scoredUsers
          (membershipTokens ⟨"u", "id"⟩ items)) ∧
      (∃ bag, Bag.parse boundaryText = .ok bag ∧
        orderSearch.Writes (fun _ => False) bag scoredUsers
          (containmentTokens ⟨"u", "ref"⟩ "%9223372036854775807%")) ∧
      ∃ bag value x, Bag.parse boundaryText = .ok bag ∧ bag.find? "id" = some value ∧
        value.scalars[0]? = some (.float x) := by
  have hnumbers : ∀ other ∈ (Written.object boundaryMembers).numerals, other.number? ≠ none := by
    intro other hother
    have hall : [beyondNumeral, leastNumeral, greatestNumeral].all (·.number?.isSome) = true := by
      decide
    exact Option.isSome_iff_ne_none.mp (List.all_eq_true.mp hall other hother)
  have hkeeps : ∀ field (value : Value), value.isUsable = true →
      orderSearch.sanitizer.keeps field value = true :=
    fun field value husable => (Bool.and_true _).trans husable
  have happly := fun field hrule written hlast place n hinteger hplace =>
    apply_writes_integer orderSearch field hrule (hkeeps field) scoredUsers _ rfl boundaryText
      boundaryMembers isTextOf_boundaryText (by decide) written hlast place n hinteger hplace
      fun other hother _ => hnumbers other hother
  obtain ⟨bag, hparse, hlist, -⟩ := (happly "id" (by decide) _ rfl 1 leastNumeral
    ⟨rfl, rfl⟩ rfl).1 (by decide) (by decide) (by decide)
  obtain ⟨items, hlength, hitem, _, _, -, -, hitems⟩ := hlist rfl
  obtain ⟨bag', hparse', -, hpattern⟩ := (happly "ref" (by decide) _ rfl 0 greatestNumeral
    ⟨rfl, rfl⟩ rfl).1 (by decide) (by decide) (by decide)
  obtain ⟨_, _, -, -, hcontained⟩ := hpattern rfl rfl
  refine ⟨isTextOf_boundaryText,
    ⟨bag, items, hparse, hlength, hitem, hitems _ orderSearch_rulesExtend⟩,
    ⟨bag', hparse', hcontained _ orderSearch_rulesExtend⟩, ?_⟩
  rcases (happly "id" (by decide) _ rfl 0 beyondNumeral ⟨rfl, rfl⟩ rfl).2 (by decide) with
    hfloat | ⟨spot, hrefused⟩
  · exact hfloat
  · rw [hparse] at hrefused
    cases hrefused

end Definition

end RequestFilter
