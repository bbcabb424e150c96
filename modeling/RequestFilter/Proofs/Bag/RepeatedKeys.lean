import Mathlib.Data.List.DropRight
import RequestFilter.Proofs.Bag.QueryString
import RequestFilter.Proofs.Sql.Application

/-!
# Repeated keys of query strings

What the pairs of a query string come to, whatever their order. A field stands
where it occurs first, with or without brackets. Its value is told by its own
pairs alone: a plain pair puts aside all that came before it, and the bracketed
pairs behind the last plain one make a sequence.
-/

namespace RequestFilter

namespace QueryString

/-- The key of an element of a sequence ends in a pair of brackets. -/
def hasBrackets (key : List Char) : Bool :=
  ['[', ']'].isSuffixOf key

/-- The key without one pair of brackets at its end. -/
def fieldOf (key : List Char) : List Char :=
  if hasBrackets key then key.take (key.length - 2) else key

/-- The name of the field that a pair is for. -/
def fieldName (pair : List Char × List Char) : String :=
  String.ofList (fieldOf pair.1)

def operandOf (pair : List Char × List Char) : Scalar :=
  .string (String.ofList pair.2)

/-- What the pairs of one field give it: the sequence of the bracketed pairs behind its last plain
one, or else the string of that plain one. -/
def valueGiven (own : List (List Char × List Char)) : Option Value :=
  match own.rtakeWhile fun pair => hasBrackets pair.1 with
  | [] =>
      (own.filter fun pair => !hasBrackets pair.1).getLast?.map fun pair =>
        .scalar (operandOf pair)
  | first :: others => some (.sequence ((first :: others).map operandOf))

section Step

theorem bracketedField?_eq (key : List Char) :
    bracketedField? key = if hasBrackets key then some (fieldOf key) else none := by
  cases hkey : hasBrackets key with
  | true =>
      obtain ⟨field, rfl⟩ := List.isSuffixOf_iff_suffix.mp hkey
      simp [bracketedField?_append, fieldOf, hkey]
  | false =>
      refine bracketedField?_eq_none fun hsuffix => ?_
      rw [← List.isSuffixOf_iff_suffix] at hsuffix
      exact absurd hsuffix (Bool.eq_false_iff.mp hkey)

/-- The sequence that a further element goes to the end of. -/
def elementsSoFar : Option Value → List Scalar
  | some (.sequence values) => values
  | some (.scalar _) | some .null | some (.composite _) | none => []

/-- What a further pair makes of the value that its field has had so far. -/
def extended (present : Option Value) (pair : List Char × List Char) : Value :=
  if hasBrackets pair.1 then .sequence (elementsSoFar present ++ [operandOf pair])
  else .scalar (operandOf pair)

/-- A pair gives a value to its own field and to no other one. -/
theorem addPair_eq_insert (bag : Bag) (pair : List Char × List Char) :
    addPair bag pair = bag.insert (fieldName pair) (extended (bag.find? (fieldName pair)) pair) := by
  unfold addPair extended
  rw [bracketedField?_eq]
  by_cases hkey : hasBrackets pair.1 = true
  · simp only [hkey, if_true, fieldName]
    rcases bag.find? (String.ofList (fieldOf pair.1)) with _ | ⟨_ | _ | _ | _⟩ <;> rfl
  · simp [hkey, fieldName, fieldOf, operandOf]

theorem elementsSoFar_valueGiven (own : List (List Char × List Char)) :
    elementsSoFar (valueGiven own) =
      (own.rtakeWhile fun pair => hasBrackets pair.1).map operandOf := by
  unfold valueGiven
  cases own.rtakeWhile fun pair => hasBrackets pair.1 with
  | nil =>
      -- what a plain pair gives is no sequence
      cases (own.filter fun pair => !hasBrackets pair.1).getLast? <;> rfl
  | cons first others => rfl

theorem valueGiven_concat (own : List (List Char × List Char)) (pair : List Char × List Char) :
    valueGiven (own ++ [pair]) = some (extended (valueGiven own) pair) := by
  by_cases hkey : hasBrackets pair.1 = true
  · rw [extended, if_pos hkey, elementsSoFar_valueGiven, valueGiven,
      List.rtakeWhile_concat_pos (fun pair => hasBrackets pair.1) own pair hkey]
    cases own.rtakeWhile fun pair => hasBrackets pair.1 <;> simp
  · rw [extended, if_neg hkey, valueGiven,
      List.rtakeWhile_concat_neg (fun pair => hasBrackets pair.1) own pair hkey]
    simp [hkey]

theorem isUsable_of_valueGiven {own : List (List Char × List Char)} {value : Value}
    (h : valueGiven own = some value) : value.isUsable = true := by
  unfold valueGiven at h
  split at h
  next =>
    obtain ⟨pair, -, rfl⟩ := Option.map_eq_some_iff.mp h
    rfl
  next =>
    cases h
    rfl

end Step

/-- Pairs of other fields in between do not show in the value of a field. -/
theorem find?_foldl_addPair (pairs : List (List Char × List Char)) (field : String) :
    (pairs.foldl addPair ∅).find? field =
      valueGiven (pairs.filter fun pair => fieldName pair = field) := by
  induction pairs using List.reverseRecOn with
  | nil => rfl
  | append_singleton front pair ih =>
      rw [List.foldl_append, List.foldl_cons, List.foldl_nil, addPair_eq_insert, List.filter_append]
      by_cases hfield : fieldName pair = field
      · subst hfield
        have hown : [pair].filter (fun other => fieldName other = fieldName pair) = [pair] := by
          simp
        rw [OrderedMap.find?_insert_self, ih, hown, valueGiven_concat]
      · rw [OrderedMap.find?_insert_of_ne _ (Ne.symm hfield), ih]
        simp [hfield]

/-- The bag of a query string has the fields of its pairs, each once and where it occurs first.
Their values are those which the pairs of each field give it, and all of them can be operands, so
that sanitizing leaves the bag as it is. -/
theorem ofQueryString_gathers_pairs (query : String) :
    let bag := Bag.ofQueryString query
    let pairs := QueryString.pairs query.toList
    bag.names = (pairs.map fieldName).eraseDups ∧
      (∀ field, bag.find? field = valueGiven (pairs.filter fun pair => fieldName pair = field)) ∧
      (∀ entry ∈ bag.entries, entry.2.isUsable = true) ∧
      (Sanitizer.default.sanitize bag).bag = bag := by
  intro bag pairs
  have hfind : ∀ field, bag.find? field = _ := find?_foldl_addPair pairs
  have husable : ∀ entry ∈ bag.entries, entry.2.isUsable = true := by
    intro entry hentry
    have hvalue := bag.find?_eq_some_iff.mpr hentry
    rw [hfind] at hvalue
    exact isUsable_of_valueGiven hvalue
  refine ⟨?_, hfind, husable, ?_⟩
  · have hstep : ∀ (bag : Bag) pair, ∃ value, addPair bag pair = bag.insert (fieldName pair) value :=
      fun bag pair => ⟨_, addPair_eq_insert bag pair⟩
    exact OrderedMap.names_foldl_of_insert hstep ∅ pairs
  · apply OrderedMap.ext_entries
    rw [Sanitizer.entries_sanitize_default]
    exact List.filter_eq_self.mpr husable

/-- A plain pair between bracketed ones, in front of a field that is given in between. -/
example : (Bag.ofQueryString "a[]=1&b=2&a=3&a[]=4&a%5B]=5").entries.map
      (fun entry => (entry.1, entry.2.scalars)) =
    [("a", [.string "4", .string "5"]), ("b", [.string "2"])] := by
  decide +kernel

end QueryString

end RequestFilter
