import RequestFilter.Proofs.Pattern.Matching

/-!
# Literal patterns

The containment pattern of a text takes every character of the text literally,
those with a meaning in patterns and runs of backslashes included. No backslash is
left at its end without a character to take, so that it is a pattern for every
matcher.
-/

namespace RequestFilter

/-- Every backslash that takes a character literally has one behind it. -/
def isWellFormedPattern : List Char → Bool
  | [] => true
  | ['\\'] => false
  | '\\' :: _ :: pattern => isWellFormedPattern pattern
  | _ :: pattern => isWellFormedPattern pattern

theorem isWellFormedPattern_cons_of_ne {c : Char} (h : c ≠ '\\') (pattern : List Char) :
    isWellFormedPattern (c :: pattern) = isWellFormedPattern pattern := by
  cases pattern <;> simp [isWellFormedPattern, h]

/-- An escaped text leaves no backslash over. -/
theorem isWellFormedPattern_escapePattern_append (cs pattern : List Char) :
    isWellFormedPattern (escapePattern cs ++ pattern) = isWellFormedPattern pattern := by
  induction cs with
  | nil => rfl
  | cons c rest ih =>
      by_cases hc : isPatternSpecial c = true
      · rw [escapePattern, if_pos hc, List.cons_append, List.cons_append, isWellFormedPattern, ih]
      · have hne : c ≠ '\\' := by
          rintro rfl
          exact hc rfl
        rw [escapePattern, if_neg hc, List.cons_append, isWellFormedPattern_cons_of_ne hne, ih]

theorem isWellFormedPattern_containsChars (cs : List Char) :
    isWellFormedPattern (containsChars cs) = true := by
  rw [containsChars, List.cons_append, isWellFormedPattern_cons_of_ne (by decide),
    isWellFormedPattern_escapePattern_append]
  rfl

/-- The pattern of a text has no backslash without a character behind it and is matched by exactly
those texts in which the given one occurs. Folding the case of both, the pattern is well formed
still, and is matched where the folded text occurs in the folded one. -/
theorem matchesPattern_containsPattern (value text : String) :
    let pattern := (containsPattern value).toList
    isWellFormedPattern pattern = true ∧
      (matchesPattern pattern text.toList = true ↔ value.toList <:+: text.toList) ∧
      ∀ folding : Folding,
        isWellFormedPattern (pattern.map folding.fold) = true ∧
        (matchesPattern (pattern.map folding.fold) (text.toList.map folding.fold) = true ↔
          value.toList.map folding.fold <:+: text.toList.map folding.fold) := by
  intro pattern
  have hpattern : pattern = containsChars value.toList := String.toList_ofList
  rw [hpattern]
  refine ⟨isWellFormedPattern_containsChars _, matchesPattern_containsChars _ _, ?_⟩
  intro folding
  rw [folding.map_containsChars]
  exact ⟨isWellFormedPattern_containsChars _, matchesPattern_containsChars _ _⟩

/-- A value that ends in a run of backslashes. -/
example : containsPattern "50%\\\\" = "%50\\%\\\\\\\\%" ∧
    matchesPattern (containsPattern "50%\\\\").toList "a50%\\\\b".toList = true ∧
    matchesPattern (containsPattern "50%\\\\").toList "a50%\\b".toList = false := by
  decide +kernel

end RequestFilter
