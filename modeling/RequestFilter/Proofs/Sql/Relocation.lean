import RequestFilter.Proofs.Sql.Composed

/-!
# Moving placeholders

The text of a node that is written after other placeholders differs from the one
it has alone in the numbers of its placeholders only: every one of them is moved
by the same offset. Names are no placeholders, whatever is written in them.
-/

namespace RequestFilter.Sql

open Fragment

/-- Where a walk over the text of a statement stands: between quotation marks, behind the sign of
a placeholder, or elsewhere. -/
inductive Zone where
  | plain
  | quoted
  | number
deriving DecidableEq

/-- A text with `offset` added to the number of every placeholder outside of quotation marks. The
number is written where its placeholder begins, and the digits of the former one are left out. -/
def relocate (offset : Nat) : Zone → List Char → List Char
  | _, [] => []
  | zone, c :: rest =>
      if zone = .quoted then
        c :: relocate offset (if c = '"' then .plain else .quoted) rest
      else if zone = .number ∧ c.isDigit then
        relocate offset .number rest
      else if c = '"' then
        c :: relocate offset .quoted rest
      else
        let digits := rest.takeWhile Char.isDigit
        if c = '$' ∧ digits ≠ [] then
          c :: (Nat.toDigits 10 (offset + Nat.ofDigitChars 10 digits 0) ++
            relocate offset .number rest)
        else
          c :: relocate offset .plain rest

section Pieces

variable (offset : Nat)

/-- Characters that neither open a name nor begin a placeholder stay as they are. -/
theorem relocate_of_forall {cs : List Char} (h : ∀ c ∈ cs, c ≠ '"' ∧ c ≠ '$')
    (rest : List Char) :
    relocate offset .plain (cs ++ rest) = cs ++ relocate offset .plain rest := by
  induction cs with
  | nil => rfl
  | cons c cs ih =>
      obtain ⟨⟨hquote, hsign⟩, hcs⟩ := List.forall_mem_cons.mp h
      simp [relocate, hquote, hsign, ih hcs]

theorem relocate_quoteIdentifier (name : String) (rest : List Char) :
    relocate offset .plain ((quoteIdentifier name).toList ++ rest) =
      (quoteIdentifier name).toList ++ relocate offset .plain rest := by
  -- a doubled quote leads out of the quotation marks and back into them
  have hinside : ∀ cs, relocate offset .quoted (doubleQuotes cs ++ '"' :: rest) =
      doubleQuotes cs ++ '"' :: relocate offset .plain rest := by
    intro cs
    induction cs with
    | nil => simp [doubleQuotes, relocate]
    | cons c cs ih => by_cases hc : c = '"' <;> simp [doubleQuotes, relocate, hc, ih]
  simp [quoteIdentifier, relocate, hinside]

/-- The digits of a number are left out. -/
theorem relocate_number {digits rest : List Char} (hdigits : ∀ c ∈ digits, c.isDigit = true)
    (hrest : ∀ c ∈ rest.head?, c.isDigit = false) :
    relocate offset .number (digits ++ rest) = relocate offset .plain rest := by
  induction digits with
  | nil =>
      cases rest with
      | nil => rfl
      | cons c others => simp [relocate, hrest c rfl]
  | cons c digits ih =>
      obtain ⟨hc, hdigits⟩ := List.forall_mem_cons.mp hdigits
      simp [relocate, hc, ih hdigits]

/-- The placeholder of a number becomes that of the number moved by the offset. -/
theorem relocate_placeholder (number : Nat) {rest : List Char}
    (hrest : ∀ c ∈ rest.head?, c.isDigit = false) :
    relocate offset .plain (("$" ++ toString number).toList ++ rest) =
      ("$" ++ toString (offset + number)).toList ++ relocate offset .plain rest := by
  have hdigits : ∀ c ∈ Nat.toDigits 10 number, c.isDigit = true :=
    fun c hc => Nat.isDigit_of_mem_toDigits (by omega) (by omega) hc
  have htake : (Nat.toDigits 10 number ++ rest).takeWhile Char.isDigit =
      Nat.toDigits 10 number := takeWhile_isDigit_append hdigits hrest
  have hvalue : Nat.ofDigitChars 10 (Nat.toDigits 10 number) 0 = number :=
    Nat.ofDigitChars_ten_toDigits
  have hchars : ∀ n, ("$" ++ toString n).toList = '$' :: Nat.toDigits 10 n := fun n => by
    rw [String.toList_append, show (toString n).toList = Nat.toDigits 10 n from Nat.toList_repr]
    rfl
  rw [hchars, hchars, List.cons_append, List.cons_append]
  simp [relocate, htake, hvalue, Nat.toDigits_ne_nil, relocate_number offset hdigits hrest]

end Pieces

/-- Alone or after `offset` other placeholders, composed fragments have the same text but for the
numbers of their placeholders. -/
theorem Composed.relocate_spelled {fragments : List Fragment} (h : Composed fragments)
    (offset index : Nat) :
    relocate offset .plain (spelled index fragments) = spelled (offset + index) fragments := by
  induction h generalizing index with
  | nil => rfl
  | fixed htext _ ih =>
      have hall : ∀ text ∈ fixedTexts, text.toList.all (fun c => c ≠ '"' ∧ c ≠ '$') = true := by
        decide
      have hchars := fun c hc => of_decide_eq_true (List.all_eq_true.mp (hall _ htext) c hc)
      rw [spelled_plain, spelled_plain, relocate_of_forall offset hchars, ih]
  | identifier name _ ih =>
      rw [spelled_identifier, spelled_identifier, relocate_quoteIdentifier, ih]
  | @literal value rest _ hleads ih =>
      by_cases hkind : value.kind = .string
      · cases value with
        | string s =>
            -- no digit of what follows joins those of the placeholder
            have hdelimits := hleads (index + 1) [] (by simp [Delimits])
            rw [List.append_nil] at hdelimits
            rw [literalFragment, spelled_parameter, spelled_parameter,
              relocate_placeholder offset (index + 1) (isDigit_eq_false_of_delimits hdelimits), ih]
            rfl
        | bool _ | int _ | float _ => contradiction
      · have hchars : ∀ c ∈ value.text.toList, c ≠ '"' ∧ c ≠ '$' := by
          intro c hc
          have hword := isWordChar_of_mem_scalar hkind hc
          exact ⟨by rintro rfl; contradiction, by rintro rfl; contradiction⟩
        rw [literalFragment_eq_plain hkind, spelled_plain, spelled_plain,
          relocate_of_forall offset hchars, ih]

end RequestFilter.Sql
