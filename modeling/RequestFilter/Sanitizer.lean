import RequestFilter.Bag

/-!
# Sanitizing

Before predicates are made, values that carry no operand are dropped, and those
that a caller's test refuses. The test only sees usable values.
-/

namespace RequestFilter

/-- A bag in which every value is usable. -/
structure FilteredBag where
  bag : Bag
  usable : ∀ entry ∈ bag.entries, entry.2.isUsable = true

/-- The policy of sanitizing: a test of the caller's, or none. -/
structure Sanitizer where
  keep : Option (String → Value → Bool)

namespace Sanitizer

def default : Sanitizer := ⟨none⟩

def custom (keep : String → Value → Bool) : Sanitizer := ⟨some keep⟩

def isCustom (sanitizer : Sanitizer) : Bool :=
  sanitizer.keep.isSome

def keeps (sanitizer : Sanitizer) (field : String) (value : Value) : Bool :=
  value.isUsable &&
    match sanitizer.keep with
    | none => true
    | some keep => keep field value

/-- The policy of a caller comes on top of the default one. -/
theorem isUsable_of_keeps {sanitizer : Sanitizer} {field : String} {value : Value}
    (h : sanitizer.keeps field value = true) : value.isUsable = true := by
  unfold keeps at h
  exact (Bool.and_eq_true _ _ ▸ h).1

def sanitize (sanitizer : Sanitizer) (bag : Bag) : FilteredBag where
  bag := bag.filter sanitizer.keeps
  usable := by
    intro entry hentry
    rw [OrderedMap.entries_filter, List.mem_filter] at hentry
    exact isUsable_of_keeps hentry.2

end Sanitizer

end RequestFilter
