import RequestFilter.Json.Write
import RequestFilter.Proofs.Json.Numbers
import RequestFilter.Proofs.Json.Refused
import RequestFilter.Proofs.Json.Spelled
import RequestFilter.Proofs.OrderedMap

/-!
# The two forms of a document

The compact form of a document is a text without blanks, and the indented form is
another text of the same document. What was read from any text is read back from both.
-/

namespace RequestFilter

namespace Json

/-- The numeral that is the text of a number. -/
noncomputable def Number.numeral (number : Number) : Numeral :=
  number.exists_numeral.choose

/-- The numeral of a number has the text that is written for the number. -/
theorem Number.text_numeral (number : Number) : number.numeral.text = number.text.toList :=
  number.exists_numeral.choose_spec.1

/-- It is read as the number. -/
theorem Number.number?_numeral (number : Number) : number.numeral.number? = some number :=
  number.exists_numeral.choose_spec.2

mutual

/-- A document as it is written in either form. -/
noncomputable def written : Json → Written
  | .null => .null
  | .bool value => .bool value
  | .number n => .numeral n.numeral
  | .string value => .string value
  | .array items => .array (writtenItems items)
  | .object members => .object (writtenMembers members)

noncomputable def writtenItems : List Json → List Written
  | [] => []
  | item :: rest => item.written :: writtenItems rest

noncomputable def writtenMembers : List (String × Json) → List (String × Written)
  | [] => []
  | (name, value) :: rest => (name, value.written) :: writtenMembers rest

end

/-- Parts of a list or an object behind another one, each of them behind a comma and a gap. -/
def following (gap : List Char) (parts : List (List Char)) (rest : List Char) : List Char :=
  parts.foldr (fun part more => ',' :: (gap ++ (part ++ more))) rest

theorem following_cons (gap part : List Char) (parts : List (List Char)) (rest : List Char) :
    following gap (part :: parts) rest = ',' :: (gap ++ (part ++ following gap parts rest)) := rfl

/-- Parts with commas between, and what stands behind them, are the first part and what follows
it. -/
theorem intercalate_append (gap part : List Char) (parts : List (List Char)) (rest : List Char) :
    (',' :: gap).intercalate (part :: parts) ++ rest = part ++ following gap parts rest := by
  induction parts generalizing part with
  | nil => simp [List.intercalate, following]
  | cons next others ih =>
      rw [List.intercalate_cons_cons, List.append_assoc, List.append_assoc, ih]
      rfl

theorem bracketed_cons (opening closing : Char) (depth : Nat) (part : List Char)
    (parts : List (List Char)) :
    bracketed opening closing depth (part :: parts) =
      opening :: (lineBreak (depth + 1) ++
        (part ++ following (lineBreak (depth + 1)) parts (lineBreak depth ++ [closing]))) := by
  rw [← intercalate_append]
  simp [bracketed]

theorem stringChars_append (s : String) (rest : List Char) :
    stringChars s ++ rest = '"' :: (s.toList.flatMap escapeChar ++ '"' :: rest) := by
  simp [stringChars]

section Compact

mutual

/-- The compact form has no blanks. -/
theorem chars_written : ∀ document : Json, document.written.chars = document.compactChars
  | .null | .bool true | .bool false | .string _ => rfl
  | .number n => n.text_numeral
  | .array [] | .object [] => rfl
  | .array (item :: rest) => by
      rw [written, writtenItems, Written.chars, chars_written item, itemsChars_written rest,
        compactChars, compactItems, List.cons_append, intercalate_append]
  | .object ((name, value) :: rest) => by
      rw [written, writtenMembers, Written.chars, chars_written value, membersChars_written rest,
        compactChars, compactMembers, List.cons_append, intercalate_append, List.append_assoc,
        stringChars_append]
      rfl

/-- The items of a compact list follow each other without a gap. -/
theorem itemsChars_written : ∀ items : List Json,
    Written.itemsChars (writtenItems items) = following [] (compactItems items) [']']
  | [] => rfl
  | item :: rest => by
      rw [writtenItems, Written.itemsChars, chars_written item, itemsChars_written rest]
      rfl

/-- So do the members of a compact object. -/
theorem membersChars_written : ∀ members : List (String × Json),
    Written.membersChars (writtenMembers members) = following [] (compactMembers members) ['\x7d']
  | [] => rfl
  | (name, value) :: rest => by
      rw [writtenMembers, Written.membersChars, chars_written value, membersChars_written rest,
        compactMembers, following_cons, List.nil_append, List.append_assoc, stringChars_append]
      rfl

end

end Compact

section Indented

mutual

/-- The indented form is a text of the document, at any depth. -/
theorem spelling_written : ∀ (depth : Nat) (document : Json),
    Spelling document.written (document.indentedChars depth)
  | _, .null => .null
  | _, .bool true => .truth
  | _, .bool false => .falsity
  | _, .number n => by
      rw [indentedChars, ← n.text_numeral]
      exact .numeral _
  | _, .string value => .string (textSpelling_escaped value.toList)
  | _, .array [] => .emptyArray areBlank_nil
  | _, .object [] => .emptyObject areBlank_nil
  | depth, .array (item :: rest) => by
      rw [indentedChars, indentedItems, bracketed_cons]
      exact .array (areBlank_lineBreak _) (spelling_written (depth + 1) item)
        (itemsBehind_written depth rest)
  | depth, .object ((name, value) :: rest) => by
      rw [indentedChars, indentedMembers, bracketed_cons, List.append_assoc, stringChars_append]
      exact .object (areBlank_lineBreak _) (.member (textSpelling_escaped name.toList) areBlank_nil
        areBlank_space (spelling_written (depth + 1) value) (membersBehind_written depth rest))

/-- Behind an item, the further ones stand on lines of their own. -/
theorem itemsBehind_written : ∀ (depth : Nat) (items : List Json),
    ItemsBehind (writtenItems items)
      (following (lineBreak (depth + 1)) (indentedItems (depth + 1) items) (lineBreak depth ++ [']']))
  | depth, [] => .close (areBlank_lineBreak depth)
  | depth, item :: rest =>
      .more areBlank_nil (areBlank_lineBreak _) (spelling_written (depth + 1) item)
        (itemsBehind_written depth rest)

/-- So do the further members behind a member. -/
theorem membersBehind_written : ∀ (depth : Nat) (members : List (String × Json)),
    MembersBehind (writtenMembers members)
      (following (lineBreak (depth + 1)) (indentedMembers (depth + 1) members)
        (lineBreak depth ++ ['\x7d']))
  | depth, [] => .close (areBlank_lineBreak depth)
  | depth, (name, value) :: rest => by
      rw [indentedMembers, following_cons, List.append_assoc, stringChars_append]
      exact .more areBlank_nil (areBlank_lineBreak _) (.member (textSpelling_escaped name.toList)
        areBlank_nil areBlank_space (spelling_written (depth + 1) value)
        (membersBehind_written depth rest))

end

/-- The indented form is a text of the document, with a line break at its end or without. -/
theorem isTextOf_indented (document : Json) {blanks : List Char} (hblanks : AreBlank blanks) :
    IsTextOf document.written (document.indented ++ String.ofList blanks) :=
  ⟨[], document.indentedChars 0, blanks, areBlank_nil, spelling_written 0 document, hblanks,
    by simp [indented]⟩

end Indented

section ReadBack

open Written (readItems readMembers)

variable {levels : Nat}

/-- Items that are read as they were written make the list that was written. -/
theorem readItems_writtenItems {items : List Json}
    (h : ∀ item ∈ items, item.written.read levels = .ok item) :
    readItems levels (writtenItems items) = .ok items := by
  induction items with
  | nil => rfl
  | cons item rest ih =>
      obtain ⟨hitem, hrest⟩ := List.forall_mem_cons.mp h
      rw [writtenItems, readItems, hitem, ih hrest]
      rfl

/-- So do the members of an object. -/
theorem readMembers_writtenMembers {members : List (String × Json)}
    (h : ∀ member ∈ members, member.2.written.read levels = .ok member.2) :
    readMembers levels (writtenMembers members) = .ok members := by
  induction members with
  | nil => rfl
  | cons member rest ih =>
      obtain ⟨name, value⟩ := member
      obtain ⟨hvalue, hrest⟩ := List.forall_mem_cons.mp h
      rw [writtenMembers, readMembers, hvalue, ih hrest]
      rfl

theorem distinctMembers_distinctMembers (members : List (String × Json)) :
    distinctMembers (distinctMembers members) = distinctMembers members :=
  congrArg OrderedMap.entries (OrderedMap.ofList_entries _)

/-- What holds of every tree that is read holds of the items of a list that is read. -/
theorem forall_of_readItems {motive : Json → Prop} {items : List Written} {read : List Json}
    (h : readItems levels items = .ok read)
    (hread : ∀ {item : Written} {document : Json}, item.read levels = .ok document →
      motive document) : ∀ document ∈ read, motive document := by
  induction items generalizing read with
  | nil =>
      cases h
      exact List.forall_mem_nil _
  | cons item rest ih =>
      rw [readItems] at h
      obtain ⟨first, hfirst, hothers⟩ := exists_of_bind_eq_ok h
      obtain ⟨others, hrest, hall⟩ := exists_of_bind_eq_ok hothers
      cases hall
      exact List.forall_mem_cons.mpr ⟨hread hfirst, ih hrest⟩

/-- What holds of all values that are read holds of the members of an object. -/
theorem forall_of_readMembers {motive : Json → Prop} {members : List (String × Written)}
    {read : List (String × Json)} (h : readMembers levels members = .ok read)
    (hread : ∀ {value : Written} {document : Json}, value.read levels = .ok document →
      motive document) : ∀ member ∈ read, motive member.2 := by
  have hall := Written.forall₂_of_readMembers h
  clear h
  induction hall with
  | nil => exact List.forall_mem_nil _
  | cons hmember _ ih => exact List.forall_mem_cons.mpr ⟨hread hmember.2, ih⟩

/-- A tree that was read from a document is read again from the document that is written for it. -/
theorem read_written_of_read {given : Written} {document : Json}
    (h : given.read levels = .ok document) : document.written.read levels = .ok document := by
  induction levels using Nat.strongRecOn generalizing given document with
  | ind levels ih =>
      cases Written.isTree_of_read h with
      | null | bool | string => rfl
      | numeral hnumber => rw [written, Written.read, Number.number?_numeral]; rfl
      | @array levels items read hread =>
          have hitems := forall_of_readItems hread (ih levels (Nat.lt_succ_self levels))
          rw [written, Written.read, readItems_writtenItems hitems]
          rfl
      | @object levels members read hread =>
          have hmembers : ∀ member ∈ distinctMembers read,
              member.2.written.read levels = .ok member.2 :=
            OrderedMap.forall_entries_ofList
              (forall_of_readMembers hread (ih levels (Nat.lt_succ_self levels)))
          rw [written, Written.read, readMembers_writtenMembers hmembers]
          exact congrArg (fun entries => Except.ok (Json.object entries))
            (distinctMembers_distinctMembers read)

/-- What was read from a text is read back from both forms. -/
theorem parse_forms_of_parse {text : String} {document : Json} (h : parse text = .ok document) :
    parse document.compact = .ok document ∧ parse document.indented = .ok document := by
  obtain ⟨given, -, hread⟩ := parse_eq_ok_iff.mp h
  have hdocument := read_written_of_read hread
  refine ⟨parse_eq_ok_iff.mpr ⟨document.written, ?_, hdocument⟩,
    parse_eq_ok_iff.mpr ⟨document.written, ?_, hdocument⟩⟩
  · have htext := isTextOf_chars document.written
    rwa [chars_written] at htext
  · simpa using isTextOf_indented document areBlank_nil

end ReadBack

end Json

end RequestFilter
