import RequestFilter.Compilation
import RequestFilter.Proofs.Sql.Composed
import RequestFilter.Proofs.Text.Quoted

/-!
# Reading listings back

The listing of a statement is its text and one line for each bound value. Names
may hold line breaks and anything that looks like the line of a value, but their
quotation marks come in pairs, so that the first line break outside of quotation
marks ends the text. Every line behind it is one value.
-/

namespace RequestFilter

namespace Sql

/-- The fragments that occur in rendered statements. -/
inductive Fragment.IsRendered : Fragment → Prop
  | fixed {text : String} (h : text ∈ fixedTexts) : IsRendered (.plain text)
  | scalar {value : Scalar} (h : value.kind ≠ .string) : IsRendered (.plain value.text)
  | identifier (name : String) : IsRendered (.identifier name)
  | parameter (value : String) : IsRendered (.parameter value)

/-- Fragments of which each occurs in rendered statements. -/
def AreRendered (fragments : List Fragment) : Prop :=
  ∀ fragment ∈ fragments, fragment.IsRendered

/-- Composed fragments are of the kinds that occur in statements. -/
theorem Composed.areRendered {fragments : List Fragment} (h : Composed fragments) :
    AreRendered fragments := by
  induction h with
  | nil => exact List.forall_mem_nil _
  | fixed htext _ ih => exact List.forall_mem_cons.mpr ⟨.fixed htext, ih⟩
  | identifier name _ ih => exact List.forall_mem_cons.mpr ⟨.identifier name, ih⟩
  | literal value _ _ ih =>
      refine List.forall_mem_cons.mpr ⟨?_, ih⟩
      by_cases h : value.kind = .string
      · cases value with
        | string s => exact .parameter s
        | bool _ | int _ | float _ => contradiction
      · rw [literalFragment_eq_plain h]
        exact .scalar h

theorem Select.areRendered (select : Select) : AreRendered select.fragments :=
  select.composed.areRendered

/-- A text cut at its first line break outside of quotation marks; `inside` says whether it begins
inside of them. -/
def cutLine (inside : Bool) : List Char → List Char × List Char
  | [] => ([], [])
  | c :: rest =>
      if c = '\n' ∧ inside = false then ([], rest)
      else
        let (line, further) := cutLine (if c = '"' then !inside else inside) rest
        (c :: line, further)

/-- Characters whose quotation marks come in pairs, with every line break between two of them: a
cut comes behind them. -/
def Balanced (cs : List Char) : Prop :=
  ∀ rest, cutLine false (cs ++ rest) = (cs ++ (cutLine false rest).1, (cutLine false rest).2)

namespace Balanced

theorem append {cs ds : List Char} (hcs : Balanced cs) (hds : Balanced ds) :
    Balanced (cs ++ ds) := by
  intro rest
  rw [List.append_assoc, hcs, hds, List.append_assoc]

/-- Characters that are neither quotation marks nor line breaks. -/
theorem of_forall {cs : List Char} (h : ∀ c ∈ cs, c ≠ '"' ∧ c ≠ '\n') : Balanced cs := by
  intro rest
  induction cs with
  | nil => rfl
  | cons c cs ih =>
      obtain ⟨⟨hquote, hbreak⟩, hcs⟩ := List.forall_mem_cons.mp h
      simp [cutLine, hquote, hbreak, ih hcs]

theorem quoteIdentifier (name : String) : Balanced (quoteIdentifier name).toList := by
  -- a doubled quote leads out of the quotation marks and back into them
  have hinside : ∀ cs rest, cutLine true (doubleQuotes cs ++ '"' :: rest) =
      (doubleQuotes cs ++ '"' :: (cutLine false rest).1, (cutLine false rest).2) := by
    intro cs rest
    induction cs with
    | nil => simp [doubleQuotes, cutLine]
    | cons c cs ih => by_cases hc : c = '"' <;> simp [doubleQuotes, cutLine, hc, ih]
  intro rest
  simp [Sql.quoteIdentifier, cutLine, hinside]

theorem scalar {value : Scalar} (h : value.kind ≠ .string) : Balanced value.text.toList := by
  refine of_forall fun c hc => ?_
  have hword := isWordChar_of_mem_scalar h hc
  exact ⟨by rintro rfl; contradiction, by rintro rfl; contradiction⟩

theorem placeholder (number : Nat) : Balanced ("$" ++ toString number).toList := by
  refine of_forall fun c hc => ?_
  rw [String.toList_append, show (toString number).toList = Nat.toDigits 10 number from
    Nat.toList_repr] at hc
  rcases List.mem_append.mp hc with hsign | hdigit
  · obtain rfl := List.mem_singleton.mp hsign
    decide
  · have hdigit : c.isDigit = true := Nat.isDigit_of_mem_toDigits (by omega) (by omega) hdigit
    exact ⟨by rintro rfl; contradiction, by rintro rfl; contradiction⟩

end Balanced

theorem Fragment.IsRendered.balanced {fragment : Fragment} (h : fragment.IsRendered)
    (index : Nat) : Balanced (fragment.text index).toList := by
  cases h with
  | fixed htext =>
      have hall : ∀ text ∈ fixedTexts, text.toList.all (fun c => c ≠ '"' ∧ c ≠ '\n') = true := by
        decide
      exact .of_forall fun c hc => of_decide_eq_true (List.all_eq_true.mp (hall _ htext) c hc)
  | scalar hkind => exact .scalar hkind
  | identifier name => exact .quoteIdentifier name
  | parameter value => exact .placeholder (index + 1)

theorem AreRendered.balanced_spelled {fragments : List Fragment} (h : AreRendered fragments)
    (index : Nat) : Balanced (Fragment.spelled index fragments) := by
  induction fragments generalizing index with
  | nil => exact fun _ => rfl
  | cons fragment rest ih =>
      obtain ⟨hfragment, hrest⟩ := List.forall_mem_cons.mp h
      exact (hfragment.balanced index).append (ih hrest _)

/-- The text of a statement ends at the first line break outside of quotation marks. -/
theorem Select.cutLine_text_append (select : Select) (rest : List Char) :
    cutLine false (select.statement.text.toList ++ '\n' :: rest) =
      (select.statement.text.toList, rest) := by
  rw [statement, Statement.text_ofFragments, select.areRendered.balanced_spelled 0]
  simp [cutLine]

namespace Statement

theorem toList_parameterLine (number : Nat) (value : String) :
    (parameterLine number value).toList =
      ('$' :: (Nat.toDigits 10 number ++ " = ".toList) ++ Quoted.encode value.toList) ++
        ['\n'] := by
  simp [parameterLine, quoted, Nat.toList_repr]

/-- A line of a bound value has no line break but its last character. -/
theorem newline_not_mem_line (number : Nat) (value : String) :
    '\n' ∉ '$' :: (Nat.toDigits 10 number ++ " = ".toList) ++ Quoted.encode value.toList := by
  have hdigits : '\n' ∉ Nat.toDigits 10 number := fun h =>
    absurd (Nat.isDigit_of_mem_toDigits (by omega) (by omega) h) (by decide)
  simp [hdigits, Quoted.newline_not_mem_encode]

/-- The lines of bound values tell the values. -/
theorem eq_of_flatMap_parameterLines_eq {index : Nat} {values values' : List String}
    (h : (parameterLines index values).flatMap String.toList =
      (parameterLines index values').flatMap String.toList) : values = values' := by
  induction values generalizing index values' with
  | nil =>
      cases values' with
      | nil => rfl
      | cons value' rest' =>
          rw [parameterLines, parameterLines, List.flatMap_cons, toList_parameterLine] at h
          cases h
  | cons value rest ih =>
      cases values' with
      | nil =>
          rw [parameterLines, parameterLines, List.flatMap_cons, toList_parameterLine] at h
          cases h
      | cons value' rest' =>
          rw [parameterLines, parameterLines, List.flatMap_cons, List.flatMap_cons,
            toList_parameterLine, toList_parameterLine, List.append_assoc _ ['\n'],
            List.append_assoc _ ['\n']] at h
          obtain ⟨hline, hrest⟩ := eq_of_append_separator_eq (newline_not_mem_line _ value)
            (newline_not_mem_line _ value') h
          have hvalue := Quoted.encode_injective (List.append_cancel_left hline)
          rw [String.toList_inj.mp hvalue, ih hrest]

theorem toList_listing (statement : Statement) :
    statement.listing.toList = statement.text.toList ++
      '\n' :: (parameterLines 0 statement.parameters).flatMap String.toList := by
  simp [listing, String.toList_join]

end Statement

end Sql

open Sql

/-- What is printed for a statement on one line can be read in one way only: it tells the text of
the statement and the values of its parameters, whatever names and values there are. -/
theorem Compiled.render_eq_iff (compiled compiled' : Compiled) :
    compiled.render false = compiled'.render false ↔
      compiled.statement.text = compiled'.statement.text ∧
        compiled.statement.parameters = compiled'.statement.parameters := by
  constructor
  · intro h
    have hlisting : compiled.statement.listing = compiled'.statement.listing := h
    have hchars := congrArg String.toList hlisting
    rw [Statement.toList_listing, Statement.toList_listing] at hchars
    have hcut := congrArg (cutLine false) hchars
    rw [statement, statement, Select.cutLine_text_append, Select.cutLine_text_append] at hcut
    obtain ⟨htext, hlines⟩ := Prod.mk.inj hcut
    exact ⟨String.toList_inj.mp htext, Statement.eq_of_flatMap_parameterLines_eq hlines⟩
  · rintro ⟨htext, hparameters⟩
    change compiled.statement.listing = compiled'.statement.listing
    rw [Statement.listing, Statement.listing, htext, hparameters]

/-- A name that imitates the end of a statement and the line of a value stays a name. -/
example :
    cutLine false (Statement.listing (Select.statement (.star
      (.table (.named none "a\"\n$1 = \"x\"") "t")))).toList =
      ("SELECT * FROM \"a\"\"\n$1 = \"\"x\"\"\" AS \"t\"".toList, []) := by
  rfl

end RequestFilter
