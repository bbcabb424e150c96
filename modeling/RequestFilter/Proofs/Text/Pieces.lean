import RequestFilter.Text.Pieces

/-!
# Pieces of joined lists

Lists without a separator that are joined by one are cut apart again. The first
separator is where the first of them ends.
-/

namespace RequestFilter

universe u

variable {α : Type u} [DecidableEq α] {separator : α}

/-- A list without a separator is one piece. -/
theorem pieces_of_not_mem {piece : List α} (h : separator ∉ piece) :
    pieces separator piece = [piece] := by
  induction piece with
  | nil => rfl
  | cons a rest ih =>
      rw [List.mem_cons, not_or] at h
      rw [pieces, if_neg (Ne.symm h.1), ih h.2]

theorem pieces_append_separator {piece : List α} (h : separator ∉ piece) (rest : List α) :
    pieces separator (piece ++ separator :: rest) = piece :: pieces separator rest := by
  induction piece with
  | nil => simp [pieces]
  | cons a others ih =>
      rw [List.mem_cons, not_or] at h
      rw [List.cons_append, pieces, if_neg (Ne.symm h.1), ih h.2]

/-- Two lists that agree end their first pieces at one place. -/
theorem eq_of_append_separator_eq {piece piece' rest rest' : List α} (hpiece : separator ∉ piece)
    (hpiece' : separator ∉ piece')
    (h : piece ++ separator :: rest = piece' ++ separator :: rest') :
    piece = piece' ∧ rest = rest' := by
  have hpieces := congrArg (pieces separator) h
  rw [pieces_append_separator hpiece, pieces_append_separator hpiece'] at hpieces
  obtain ⟨rfl, -⟩ := List.cons.inj hpieces
  exact ⟨rfl, (List.cons.inj (List.append_cancel_left h)).2⟩

/-- Lists without a separator that are joined by one are the pieces. -/
theorem pieces_intercalate {parts : List (List α)} (hne : parts ≠ [])
    (h : ∀ part ∈ parts, separator ∉ part) :
    pieces separator ([separator].intercalate parts) = parts := by
  induction parts with
  | nil => contradiction
  | cons part rest ih =>
      obtain ⟨hpart, hrest⟩ := List.forall_mem_cons.mp h
      cases rest with
      | nil => simpa [List.intercalate] using pieces_of_not_mem hpart
      | cons next others =>
          rw [List.intercalate_cons_cons, List.append_assoc, List.singleton_append,
            pieces_append_separator hpart, ih (by simp) hrest]

end RequestFilter
