import RequestFilter.Program
import RequestFilter.Proofs.Numeral
import RequestFilter.Proofs.OrderedMap
import RequestFilter.Proofs.Value

/-!
# Operands of decoded requests

A request in JSON or as a query string gives operands that a statement can hold:
its doubles are finite, so every operand that is no string is written as a truth
value or as a numeral.
-/

namespace RequestFilter

namespace Scalar

/-- No infinity and no NaN. -/
def IsFinite : Scalar → Prop
  | .float (.finite _) => True
  | .float (.infinite _) | .float .nan => False
  | .bool _ | .int _ | .string _ => True

/-- An operand that is no string is written as a truth value or as a numeral. -/
theorem IsFinite.text_of_kind_ne_string {operand : Scalar} (h : operand.IsFinite)
    (hkind : operand.kind ≠ .string) :
    operand.text = "true" ∨ operand.text = "false" ∨ IsNumeral operand.text.toList := by
  cases operand with
  | bool b => cases b <;> simp [text]
  | int n => exact Or.inr (Or.inr (isNumeral_toString n.toInt))
  | float x =>
      cases x with
      | finite y => exact Or.inr (Or.inr y.isNumeral_text)
      | infinite _ | nan => cases h
  | string s => contradiction

end Scalar

/-- Numbers of a document are finite, and so is what is kept of them. -/
theorem Json.Keeps.isFinite {document : Json} {operand : Scalar} (h : document.Keeps operand) :
    operand.IsFinite := by
  cases h <;> trivial

theorem Json.isFinite_of_forall₂_keeps {items : List Json} {operands : List Scalar}
    (h : List.Forall₂ Json.Keeps items operands) : ∀ operand ∈ operands, operand.IsFinite := by
  induction h with
  | nil => exact fun operand hmem => absurd hmem List.not_mem_nil
  | cons hitem _ ih => exact List.forall_mem_cons.mpr ⟨hitem.isFinite, ih⟩

/-- All operands are finite. -/
def Value.IsFinite (value : Value) : Prop :=
  ∀ operand ∈ value.scalars, operand.IsFinite

theorem Value.IsOf.isFinite {document : Json} {value : Value} (h : Value.IsOf document value) :
    value.IsFinite := by
  cases h with
  | null | composite => exact fun operand hmem => absurd hmem List.not_mem_nil
  | scalar h => exact fun operand hmem => List.mem_singleton.mp hmem ▸ h.isFinite
  | sequence h => exact Json.isFinite_of_forall₂_keeps h

/-- What a document is taken for has finite operands. -/
theorem Value.isFinite_ofJson (document : Json) : (Value.ofJson document).IsFinite :=
  (Value.isOf_ofJson document).isFinite

namespace Bag

/-- The operands of every field are finite. -/
def IsFinite (bag : Bag) : Prop :=
  ∀ entry ∈ bag.entries, entry.2.IsFinite

theorem isFinite_empty : IsFinite ∅ :=
  fun _ hentry => absurd hentry List.not_mem_nil

theorem IsFinite.insert {bag : Bag} (h : bag.IsFinite) {value : Value} (hvalue : value.IsFinite)
    (name : String) : Bag.IsFinite (bag.insert name value) := by
  intro entry hentry
  rcases mem_of_mem_insertEntry hentry with rfl | hold
  · exact hvalue
  · exact h entry hold

/-- A bag of members has finite operands. -/
theorem isFinite_ofMembers (members : List (String × Json)) : (ofMembers members).IsFinite := by
  refine OrderedMap.forall_entries_ofList
    (motive := fun entry : String × Value => entry.2.IsFinite) fun pair hpair => ?_
  obtain ⟨member, -, rfl⟩ := List.mem_map.mp hpair
  exact Value.isFinite_ofJson member.2

/-- A bag that was read from a text has finite operands. -/
theorem isFinite_of_parse {text : String} {bag : Bag} (h : Bag.parse text = .ok bag) :
    bag.IsFinite := by
  unfold parse at h
  split at h
  next document hdocument =>
    cases document with
    | object members =>
        cases h
        exact isFinite_ofMembers members
    | null | bool _ | number _ | string _ | array _ => cases h
  next => cases h

end Bag

namespace QueryString

/-- A pair gives its field a string, or a sequence with one string more. -/
theorem isFinite_addPair {bag : Bag} (h : bag.IsFinite) (pair : List Char × List Char) :
    (addPair bag pair).IsFinite := by
  have hstring : ∀ value : Value, value.scalars = [.string (String.ofList pair.2)] →
      value.IsFinite := by
    intro value hvalue operand hmem
    rw [hvalue] at hmem
    cases List.mem_singleton.mp hmem
    trivial
  unfold addPair
  simp only
  split
  next field _ =>
    split
    next values hfound =>
      refine h.insert (fun operand hmem => ?_) _
      rcases List.mem_append.mp hmem with hold | hnew
      · exact h _ (bag.find?_eq_some_iff.mp hfound) operand hold
      · exact hstring (.sequence [_]) rfl operand hnew
    next => exact h.insert (hstring _ rfl) _
  next => exact h.insert (hstring _ rfl) _

end QueryString

/-- The operands of a query string are strings. -/
theorem Bag.isFinite_ofQueryString (query : String) : (Bag.ofQueryString query).IsFinite := by
  suffices hfold : ∀ (pairs : List (List Char × List Char)) (bag : Bag), bag.IsFinite →
      (pairs.foldl QueryString.addPair bag).IsFinite by
    exact hfold _ ∅ Bag.isFinite_empty
  intro pairs
  induction pairs with
  | nil => exact fun bag h => h
  | cons pair rest ih => exact fun bag h => ih _ (QueryString.isFinite_addPair h pair)

/-- No request has an operand that is infinite or no number. -/
theorem Request.isFinite_of_bag {request : Request} {bag : Bag} (h : request.bag = .ok bag) :
    bag.IsFinite := by
  cases request with
  | none =>
      cases h
      exact Bag.isFinite_empty
  | document text => exact Bag.isFinite_of_parse h
  | queryString text =>
      cases h
      exact Bag.isFinite_ofQueryString text

end RequestFilter
