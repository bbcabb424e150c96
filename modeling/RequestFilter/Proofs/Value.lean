import Mathlib.Data.List.Forall2
import RequestFilter.Proofs.Binary64
import RequestFilter.Value

/-!
# What a document is as a value

Every document is null, a scalar, a sequence of scalars or a composite that is kept as
it is, and which of these is told from the document alone. Nothing is lost: the value
gives the document back, except that an integer from `2 ^ 63` on comes back as the
double nearest to it.
-/

namespace RequestFilter

namespace Json

def isScalar : Json → Bool
  | .bool _ | .number _ | .string _ => true
  | .null | .array _ | .object _ => false

/-- A list of scalars, the empty one included. -/
def isSequence : Json → Bool
  | .array items => items.all isScalar
  | _ => false

/-- The integer needs all 64 bits, and among the doubles the value is the nearest to it. -/
structure IsRounded (n : Int) (value : Finite64) : Prop where
  large : 9223372036854775808 ≤ n
  sign : value.negative = false
  nearest : value.IsNearest n

/-- The scalars that keep what a document is: an integer keeps its value as long as 64 bits with
a sign can hold it. -/
inductive Keeps : Json → Scalar → Prop
  | bool (value : Bool) : Keeps (.bool value) (.bool value)
  | string (value : String) : Keeps (.string value) (.string value)
  | real (value : Finite64) : Keeps (.number (.real value)) (.float (.finite value))
  | integer {n : Int} {hrange : IsDocumentInteger n} {value : Int64} (h : value.toInt = n) :
      Keeps (.number (.integer n hrange)) (.int value)
  | rounded {n : Int} {hrange : IsDocumentInteger n} {value : Finite64} (h : IsRounded n value) :
      Keeps (.number (.integer n hrange)) (.float (.finite value))

/-- What comes back of an item: the item itself, unless it is an integer that is rounded. -/
inductive Restores : Json → Json → Prop
  | rounded {n : Int} {hrange : IsDocumentInteger n} {value : Finite64} (h : IsRounded n value) :
      Restores (.number (.integer n hrange)) (.number (.real value))
  | same {document : Json}
      (h : ∀ n hrange, document = .number (.integer n hrange) → n < 9223372036854775808) :
      Restores document document

/-- What comes back of a document: a sequence item by item, anything else as a whole. -/
inductive Returns : Json → Json → Prop
  | sequence {items returned : List Json} (hall : items.all isScalar = true)
      (h : List.Forall₂ Restores items returned) : Returns (.array items) (.array returned)
  | whole {document returned : Json} (hnot : document.isSequence = false)
      (h : Restores document returned) : Returns document returned

/-- A document has a scalar exactly when it is a boolean, a number or a string. -/
theorem isSome_toScalar? (document : Json) : document.toScalar?.isSome = document.isScalar := by
  cases document <;> rfl

/-- Integers that fit stay integers; every other number is kept as a double. -/
theorem Number.keeps_toScalar (number : Number) : Keeps (.number number) number.toScalar := by
  cases number with
  | real value => exact .real value
  | integer n hrange =>
      by_cases hfits : n < 9223372036854775808
      · rw [toScalar, if_pos hfits]
        exact .integer (Int64.toInt_ofInt_of_le hrange.1 hfits)
      · obtain ⟨x, hx, hsign, hnearest⟩ :=
          Binary64.exists_ofInt_eq_finite (Int.not_lt.mp hfits) hrange.2
        rw [toScalar, if_neg hfits, hx]
        exact .rounded ⟨Int.not_lt.mp hfits, hsign, hnearest⟩

/-- What a document is taken for keeps what the document says. -/
theorem keeps_of_toScalar? {document : Json} {scalar : Scalar}
    (h : document.toScalar? = some scalar) : document.Keeps scalar := by
  cases document with
  | bool value => cases h; exact .bool value
  | number number => cases h; exact number.keeps_toScalar
  | string value => cases h; exact .string value
  | null | array _ | object _ => cases h

theorem Keeps.isScalar {document : Json} {scalar : Scalar} (h : document.Keeps scalar) :
    document.isScalar = true := by
  cases h <;> rfl

/-- The kinds of documents exclude each other. -/
theorem ne_null_of_isScalar {document : Json} (h : document.isScalar = true) :
    document ≠ .null ∧ document.isSequence = false := by
  cases document with
  | bool _ | number _ | string _ => exact ⟨nofun, rfl⟩
  | null | array _ | object _ => cases h

/-- Operands are kept only of items that are scalars. -/
theorem all_isScalar_of_forall₂ {items : List Json} {values : List Scalar}
    (h : List.Forall₂ Keeps items values) : items.all isScalar = true := by
  induction h with
  | nil => rfl
  | cons hitem _ ih => rw [List.all_cons, hitem.isScalar, ih, Bool.and_self]

/-- Answers for all items of a list are those of each. -/
theorem forall₂_of_mapM_eq_some {α β : Type} {f : α → Option β} {items : List α}
    {answers : List β} (h : items.mapM f = some answers) :
    List.Forall₂ (fun item answer => f item = some answer) items answers := by
  induction items generalizing answers with
  | nil =>
      cases h
      exact .nil
  | cons item rest ih =>
      rw [List.mapM_cons] at h
      obtain ⟨first, hfirst, h⟩ := Option.bind_eq_some_iff.mp h
      obtain ⟨others, hothers, h⟩ := Option.bind_eq_some_iff.mp h
      cases h
      exact .cons hfirst (ih hothers)

/-- A list of documents has operands exactly when every item is a scalar. -/
theorem isSome_mapM_toScalar? (items : List Json) :
    (items.mapM toScalar?).isSome = items.all isScalar := by
  induction items with
  | nil => rfl
  | cons item rest ih =>
      rw [List.mapM_cons, List.all_cons, ← ih, ← isSome_toScalar? item]
      cases item.toScalar? with
      | none => rfl
      | some first => cases rest.mapM toScalar? <;> rfl

end Json

/-- A scalar as a document again. A double that is no number has no document of its own. -/
def Scalar.toJson : Scalar → Json
  | .bool value => .bool value
  | .int value =>
      .number (.integer value.toInt ⟨value.le_toInt, value.toInt_lt.trans (by decide)⟩)
  | .float (.finite value) => .number (.real value)
  | .float (.infinite _) | .float .nan => .null
  | .string value => .string value

/-- What is kept of a scalar document leads back to the document. -/
theorem Json.Keeps.restores {document : Json} {scalar : Scalar} (h : document.Keeps scalar) :
    document.Restores scalar.toJson := by
  cases h with
  | bool value => exact .same fun _ _ h => by cases h
  | string value => exact .same fun _ _ h => by cases h
  | real value => exact .same fun _ _ h => by cases h
  | @integer _ hrange value h =>
      subst h
      refine .same fun n hrange h => ?_
      cases h
      exact value.toInt_lt
  | rounded h => exact .rounded h

namespace Value

def toJson : Value → Json
  | .scalar value => value.toJson
  | .sequence values => .array (values.map Scalar.toJson)
  | .null => .null
  | .composite document => document

/-- What a document becomes, one case for each kind of value. -/
inductive IsOf : Json → Value → Prop
  | null : IsOf .null .null
  | scalar {document : Json} {value : Scalar} (h : document.Keeps value) :
      IsOf document (.scalar value)
  | sequence {items : List Json} {values : List Scalar} (h : List.Forall₂ Json.Keeps items values) :
      IsOf (.array items) (.sequence values)
  | composite {document : Json} (hnull : document ≠ .null) (hscalar : document.isScalar = false)
      (hsequence : document.isSequence = false) : IsOf document (.composite document)

/-- Every document is taken for a value of its kind. -/
theorem isOf_ofJson (document : Json) : IsOf document (ofJson document) := by
  cases document with
  | null => exact .null
  | bool value => exact .scalar (.bool value)
  | number number => exact .scalar number.keeps_toScalar
  | string value => exact .scalar (.string value)
  | object members => exact .composite nofun rfl rfl
  | array items =>
      have hsome := Json.isSome_mapM_toScalar? items
      rw [ofJson]
      cases hitems : items.mapM Json.toScalar? with
      | none =>
          rw [hitems] at hsome
          exact .composite nofun rfl hsome.symm
      | some values =>
          exact .sequence ((Json.forall₂_of_mapM_eq_some hitems).imp
            fun _ _ => Json.keeps_of_toScalar?)

/-- The value of a document leads back to it, as far as it is kept. -/
theorem IsOf.returns {document : Json} {value : Value} (h : IsOf document value) :
    document.Returns value.toJson := by
  cases h with
  | null => exact .whole rfl (.same fun _ _ h => by cases h)
  | scalar h => exact .whole (Json.ne_null_of_isScalar h.isScalar).2 h.restores
  | sequence h =>
      exact .sequence (Json.all_isScalar_of_forall₂ h)
        (List.forall₂_map_right_iff.mpr (h.imp fun _ _ => Json.Keeps.restores))
  | composite hnull hscalar hsequence =>
      refine .whole hsequence (.same fun n hrange h => ?_)
      rw [h] at hscalar
      cases hscalar

/-- The kind of a value is told from its document, and what it holds is the document: its scalars
keep what the document or its items are, in order, a composite is the document itself, and the
document comes back of it except for the integers that are rounded. -/
theorem ofJson_keeps_document (document : Json) :
    let value := ofJson document
    (value = .null ↔ document = .null) ∧
      ((∃ values, value = .sequence values) ↔ document.isSequence = true) ∧
      (∀ values, value = .sequence values →
        ∃ items, document = .array items ∧ List.Forall₂ Json.Keeps items values) ∧
      ((∃ operand, value = .scalar operand) ↔ document.isScalar = true) ∧
      (∀ operand, value = .scalar operand → document.Keeps operand) ∧
      (∀ kept, value = .composite kept ↔ kept = document ∧ document ≠ .null ∧
        document.isScalar = false ∧ document.isSequence = false) ∧
      document.Returns value.toJson := by
  intro value
  have h : IsOf document value := isOf_ofJson document
  generalize value = value at h
  have hreturns := h.returns
  cases h with
  | null => simp [Json.isSequence, Json.isScalar, hreturns]
  | scalar h =>
      obtain ⟨hnull, hsequence⟩ := Json.ne_null_of_isScalar h.isScalar
      simp [h, h.isScalar, hnull, hsequence, hreturns]
  | sequence h =>
      simp [h, Json.isSequence, Json.isScalar, Json.all_isScalar_of_forall₂ h, hreturns]
  | composite hnull hscalar hsequence =>
      simp [hnull, hscalar, hsequence, hreturns, eq_comm]

end Value

end RequestFilter
