import Mathlib.Data.List.Infix
import RequestFilter.Pattern

/-!
# What patterns match

A reference matcher for patterns, and the texts that a containment pattern
matches: exactly those in which the given text occurs. The same holds when the
case of characters is ignored, by any folding that leaves the special characters
to themselves.
-/

namespace RequestFilter

/-- Whether a text matches a pattern. A percent sign matches any characters and an
underscore any single one; a backslash takes the character after it literally. -/
def matchesPattern : List Char → List Char → Bool
  | [], text => text.isEmpty
  | '%' :: pattern, text => text.tails.any (matchesPattern pattern)
  | '_' :: pattern, text => !text.isEmpty && matchesPattern pattern text.tail
  | ['\\'], _ => false
  | '\\' :: c :: pattern, text => text.head? == some c && matchesPattern pattern text.tail
  | c :: pattern, text => text.head? == some c && matchesPattern pattern text.tail

/-- How the case of characters is ignored: the special characters of patterns stand for
themselves, and nothing else is taken for one. -/
structure Folding where
  fold : Char → Char
  fold_special : ∀ c, isPatternSpecial c = true → fold c = c
  special_of_fold : ∀ c, isPatternSpecial (fold c) = true → isPatternSpecial c = true

namespace Folding

def exact : Folding := ⟨id, fun _ _ => rfl, fun _ h => h⟩

instance : Inhabited Folding := ⟨exact⟩

theorem isPatternSpecial_fold (folding : Folding) (c : Char) :
    isPatternSpecial (folding.fold c) = isPatternSpecial c := by
  cases hc : isPatternSpecial c with
  | true => rw [folding.fold_special c hc, hc]
  | false =>
      refine Bool.eq_false_iff.mpr fun hfold => ?_
      rw [folding.special_of_fold c hfold] at hc
      contradiction

theorem map_escapePattern (folding : Folding) (cs : List Char) :
    (escapePattern cs).map folding.fold = escapePattern (cs.map folding.fold) := by
  induction cs with
  | nil => rfl
  | cons c rest ih =>
      have hbackslash : folding.fold '\\' = '\\' := folding.fold_special _ rfl
      by_cases hc : isPatternSpecial c = true
      · simp [escapePattern, folding.isPatternSpecial_fold, hc, hbackslash, ih]
      · simp [escapePattern, folding.isPatternSpecial_fold, hc, ih]

/-- The folded pattern is the pattern of the folded text. -/
theorem map_containsChars (folding : Folding) (cs : List Char) :
    (containsChars cs).map folding.fold = containsChars (cs.map folding.fold) := by
  have hpercent : folding.fold '%' = '%' := folding.fold_special _ rfl
  simp [containsChars, folding.map_escapePattern, hpercent]

end Folding

/-- A percent sign matches whatever leaves a match of the rest. -/
theorem matchesPattern_percent (pattern text : List Char) :
    matchesPattern ('%' :: pattern) text = true ↔
      ∃ suffix, suffix <:+ text ∧ matchesPattern pattern suffix = true := by
  rw [matchesPattern, List.any_eq_true]
  simp only [List.mem_tails]

/-- An escaped text is matched by itself alone, whatever special characters are in it. -/
theorem matchesPattern_escapePattern (cs pattern text : List Char) :
    matchesPattern (escapePattern cs ++ pattern) text = true ↔
      ∃ suffix, text = cs ++ suffix ∧ matchesPattern pattern suffix = true := by
  induction cs generalizing text with
  | nil => simp [escapePattern]
  | cons c rest ih =>
      have hhead : ∀ remaining : List Char,
          (text.head? == some c && matchesPattern remaining text.tail) = true ↔
            ∃ suffix, text = c :: suffix ∧ matchesPattern remaining suffix = true := by
        intro remaining
        cases text <;> simp [and_assoc]
      have hstep : matchesPattern (escapePattern (c :: rest) ++ pattern) text = true ↔
          ∃ suffix, text = c :: suffix ∧
            matchesPattern (escapePattern rest ++ pattern) suffix = true := by
        by_cases hc : isPatternSpecial c = true
        · rw [escapePattern, if_pos hc, List.cons_append, List.cons_append, matchesPattern, hhead]
        · have hne : c ≠ '%' ∧ c ≠ '_' ∧ c ≠ '\\' := by
            simpa [isPatternSpecial, and_assoc] using hc
          rw [escapePattern, if_neg hc, List.cons_append, ← hhead]
          simp [matchesPattern, hne]
      rw [hstep]
      constructor
      · rintro ⟨_, rfl, hrest⟩
        obtain ⟨suffix, rfl, hsuffix⟩ := (ih _).mp hrest
        exact ⟨suffix, rfl, hsuffix⟩
      · rintro ⟨suffix, rfl, hsuffix⟩
        exact ⟨rest ++ suffix, rfl, (ih _).mpr ⟨suffix, rfl, hsuffix⟩⟩

/-- A containment pattern is matched by the texts in which the given text occurs. -/
theorem matchesPattern_containsChars (cs text : List Char) :
    matchesPattern (containsChars cs) text = true ↔ cs <:+: text := by
  have hany : ∀ suffix, matchesPattern ['%'] suffix = true := by
    intro suffix
    exact (matchesPattern_percent [] suffix).mpr ⟨[], List.nil_suffix, rfl⟩
  unfold containsChars
  rw [List.cons_append, matchesPattern_percent]
  simp only [matchesPattern_escapePattern, hany, and_true]
  constructor
  · rintro ⟨_, ⟨before, rfl⟩, after, rfl⟩
    exact ⟨before, after, by simp⟩
  · rintro ⟨before, after, rfl⟩
    exact ⟨cs ++ after, ⟨before, by simp⟩, after, rfl⟩

end RequestFilter
