import RequestFilter.Proofs.Bag.Document
import RequestFilter.Proofs.Json.Refused

/-!
# Operands of a document

What a document gives as operands is seen from the way in which it is written: a
scalar is an operand itself, and the items of a list are operands when all of them
are scalars. The value of a member has one scalar for each, in the same place.
-/

namespace RequestFilter

namespace Json.Written

def isScalar : Written → Bool
  | .bool _ | .numeral _ | .string _ => true
  | .null | .array _ | .object _ => false

/-- A scalar gives itself, and a list of scalars its items. -/
def operands : Written → List Written
  | .array items => if items.all isScalar then items else []
  | written => if written.isScalar then [written] else []

/-- The scalar of a document that is one, unless its numeral is no number. -/
def scalar? : Written → Option Scalar
  | .bool value => some (.bool value)
  | .numeral n => n.number?.map Number.toScalar
  | .string value => some (.string value)
  | .null | .array _ | .object _ => none

theorem toScalar?_of_read {levels : Nat} {written : Written} {document : Json}
    (h : written.read levels = .ok document) :
    document.toScalar? = written.scalar? ∧ written.scalar?.isSome = written.isScalar := by
  cases isTree_of_read h with
  | null => exact ⟨rfl, rfl⟩
  | bool value => exact ⟨rfl, rfl⟩
  | string value => exact ⟨rfl, rfl⟩
  | numeral hnumber =>
      rw [scalar?, hnumber]
      exact ⟨rfl, rfl⟩
  | array hread => exact ⟨rfl, rfl⟩
  | object hread => exact ⟨rfl, rfl⟩

theorem map_toScalar?_of_readItems {levels : Nat} {items : List Written} {read : List Json}
    (h : readItems levels items = .ok read) :
    read.map toScalar? = items.map scalar? ∧
      (items.map scalar?).all Option.isSome = items.all isScalar := by
  induction items generalizing read with
  | nil =>
      cases h
      exact ⟨rfl, rfl⟩
  | cons item rest ih =>
      rw [readItems] at h
      obtain ⟨first, hfirst, hothers⟩ := exists_of_bind_eq_ok h
      obtain ⟨others, hrest, hread⟩ := exists_of_bind_eq_ok hothers
      cases hread
      obtain ⟨hscalar, hkind⟩ := toScalar?_of_read hfirst
      obtain ⟨hscalars, hkinds⟩ := ih hrest
      constructor
      · rw [List.map_cons, List.map_cons, hscalar, hscalars]
      · rw [List.map_cons, List.all_cons, List.all_cons, hkind, hkinds]

/-- Answers for all items of a list are those of each, if each has one. -/
theorem mapM_cases {α β : Type} (f : α → Option β) (items : List α) :
    (∃ answers, items.mapM f = some answers ∧ items.map f = answers.map some) ∨
      items.mapM f = none ∧ (items.map f).all Option.isSome = false := by
  induction items with
  | nil => exact .inl ⟨[], rfl, rfl⟩
  | cons item rest ih =>
      rw [List.mapM_cons, List.map_cons, List.all_cons]
      cases hitem : f item with
      | none => exact .inr ⟨rfl, rfl⟩
      | some answer =>
          rcases ih with ⟨answers, hmany, hrest⟩ | ⟨hnone, hrest⟩
          · refine .inl ⟨answer :: answers, ?_, ?_⟩
            · rw [hmany]
              rfl
            · rw [hrest, List.map_cons]
          · refine .inr ⟨?_, hrest⟩
            rw [hnone]
            rfl

/-- The value of a document has one scalar for every operand that the document gives. -/
theorem scalars_ofJson_of_read {levels : Nat} {written : Written} {document : Json}
    (h : written.read levels = .ok document) :
    (Value.ofJson document).scalars.map some = written.operands.map scalar? := by
  cases isTree_of_read h with
  | null => rfl
  | bool value => rfl
  | string value => rfl
  | numeral hnumber =>
      change [some _] = [Option.map Number.toScalar _]
      rw [hnumber]
      rfl
  | @array _ items read hread =>
      obtain ⟨hscalars, hkinds⟩ := map_toScalar?_of_readItems hread
      rw [Value.ofJson, operands]
      rcases mapM_cases toScalar? read with ⟨answers, hmany, hanswers⟩ | ⟨hnone, hsome⟩
      · have hall : items.all isScalar = true := by
          rw [← hkinds, ← hscalars, hanswers]
          simp
        rw [hmany, if_pos hall, ← hscalars, hanswers]
        rfl
      · have hall : ¬ items.all isScalar = true := by
          rw [← hkinds, ← hscalars, hsome]
          exact Bool.false_ne_true
        rw [hnone, if_neg hall]
        rfl
  | object hread => rfl

theorem exists_getLast?_of_forall₂ {α β : Type} {R : α → β → Prop} {as : List α} {bs : List β}
    (h : List.Forall₂ R as bs) {a : α} (ha : as.getLast? = some a) :
    ∃ b, bs.getLast? = some b ∧ R a b := by
  rw [← List.head?_reverse] at ha
  have hreverse := List.forall₂_reverse_iff.mpr h
  obtain ⟨others, hcons⟩ := List.head?_eq_some_iff.mp ha
  rw [hcons] at hreverse
  obtain ⟨b, others', hab, -, hbs⟩ := List.forall₂_cons_left_iff.mp hreverse
  refine ⟨b, ?_, hab⟩
  rw [← List.head?_reverse, hbs, List.head?_cons]

/-- The member that is given last for a name is read last for it. -/
theorem exists_last_of_readMembers {levels : Nat} {members : List (String × Written)}
    {read : List (String × Json)} (h : readMembers levels members = .ok read) {name : String}
    {written : Written}
    (hlast : (members.filter fun member => member.1 = name).getLast? = some (name, written)) :
    ∃ document, written.read levels = .ok document ∧
      (read.filter fun entry => entry.1 = name).getLast? = some (name, document) := by
  have hfilter := List.rel_filter (p := fun member => decide (member.1 = name))
    (q := fun entry => decide (entry.1 = name)) ?_ (forall₂_of_readMembers h)
  · obtain ⟨⟨name', document⟩, hentry, hname, hread⟩ := exists_getLast?_of_forall₂ hfilter hlast
    cases hname
    exact ⟨document, hread, hentry⟩
  · rintro member entry ⟨hname, -⟩
    simp only [hname]

end Json.Written

namespace Bag

open Json

/-- The member that a text gives last for a field decides on the value of the field. -/
theorem exists_value_of_readMembers {members : List (String × Written)} {levels : Nat}
    {read : List (String × Json)} (h : Written.readMembers levels members = .ok read)
    {field : String} {written : Written}
    (hlast : (members.filter fun member => member.1 = field).getLast? = some (field, written)) :
    ∃ value, (ofMembers read).find? field = some value ∧
      value.scalars.map some = written.operands.map Written.scalar? := by
  obtain ⟨document, hread, hentry⟩ := Written.exists_last_of_readMembers h hlast
  refine ⟨Value.ofJson document, ?_, Written.scalars_ofJson_of_read hread⟩
  rw [find?_ofMembers, hentry]
  rfl

end Bag

end RequestFilter
