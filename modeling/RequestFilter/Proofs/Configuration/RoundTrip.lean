import RequestFilter.Proofs.Configuration.Settings
import RequestFilter.Proofs.Json.Layout

/-!
# Configuration files are read back

The text that is written for a configuration file is a text of its document, which
has the settings of the file: with any characters in its names, with settings that
are absent or empty, and with every field as it was declared, by its bare name or
with settings of its own.
-/

namespace RequestFilter

open Json (Written writtenItems writtenMembers)
open Json.Written (IsPlain atMostOnce? givenFor)

/-- A document without numbers, nested so many levels deep at most. -/
structure IsTextual (levels : Nat) (document : Written) : Prop where
  depth_le : document.depth ≤ levels
  numerals_eq : document.numerals = []

namespace IsTextual

variable {levels : Nat}

/-- A bound on the levels may be larger. -/
theorem mono {document : Written} {more : Nat} (h : IsTextual levels document)
    (hmore : levels ≤ more) : IsTextual more document :=
  ⟨h.depth_le.trans hmore, h.numerals_eq⟩

theorem string (levels : Nat) (value : String) : IsTextual levels (.string value) :=
  ⟨Nat.zero_le _, rfl⟩

/-- A list is one level deeper than its items. -/
theorem array {items : List Json} (h : ∀ item ∈ items, IsTextual levels item.written) :
    IsTextual (levels + 1) (.array (writtenItems items)) := by
  induction items with
  | nil => exact ⟨Nat.succ_le_succ (Nat.zero_le _), rfl⟩
  | cons item rest ih =>
      obtain ⟨hitem, hrest⟩ := List.forall_mem_cons.mp h
      obtain ⟨hdepth, hnumerals⟩ := ih hrest
      exact ⟨Nat.succ_le_succ (Nat.max_le.mpr ⟨hitem.depth_le, Nat.le_of_succ_le_succ hdepth⟩),
        List.append_eq_nil_iff.mpr ⟨hitem.numerals_eq, hnumerals⟩⟩

/-- An object is one level deeper than the values of its members. -/
theorem object {members : List (String × Json)}
    (h : ∀ member ∈ members, IsTextual levels member.2.written) :
    IsTextual (levels + 1) (.object (writtenMembers members)) := by
  induction members with
  | nil => exact ⟨Nat.succ_le_succ (Nat.zero_le _), rfl⟩
  | cons member rest ih =>
      obtain ⟨hmember, hrest⟩ := List.forall_mem_cons.mp h
      obtain ⟨hdepth, hnumerals⟩ := ih hrest
      exact ⟨Nat.succ_le_succ (Nat.max_le.mpr ⟨hmember.depth_le, Nat.le_of_succ_le_succ hdepth⟩),
        List.append_eq_nil_iff.mpr ⟨hmember.numerals_eq, hnumerals⟩⟩

theorem optionalMember {name : String} {value : Option String} {member : String × Json}
    (h : member ∈ optionalMember name value) : IsTextual levels member.2.written := by
  cases value with
  | none => cases h
  | some value =>
      obtain rfl := List.mem_singleton.mp h
      exact string levels value

end IsTextual

namespace TableSettings

variable (table : TableSettings)

theorem isTextual_toJson : IsTextual 1 table.toJson.written := by
  refine .object fun member hmember => ?_
  rw [List.mem_append, List.mem_append, List.mem_singleton] at hmember
  obtain (hmember | rfl) | hmember := hmember
  · exact .optionalMember hmember
  · exact .string 0 table.name
  · exact .optionalMember hmember

/-- A table is told by its settings as they are written. -/
theorem recordOf?_toJson :
    Json.recordOf? ConfigurationFile.tableOf? ConfigurationFile.listedTable? table.toJson.written =
      some table := by
  obtain ⟨schema, name, knownAs⟩ := table
  cases schema <;> cases knownAs <;> rfl

end TableSettings

namespace FieldDeclaration

variable (declaration : FieldDeclaration)

theorem isTextual_toJson : IsTextual 1 declaration.toJson.written := by
  cases declaration with
  | bare name => exact .string 1 name
  | detailed name operator =>
      refine .object fun member hmember => ?_
      obtain rfl | hmember := List.mem_cons.mp hmember
      · exact .string 0 name
      · exact .optionalMember hmember

/-- A field is told as it was declared, by its bare name or with settings of its own. -/
theorem fieldOf?_toJson : ConfigurationFile.fieldOf? declaration.toJson.written = some declaration := by
  cases declaration with
  | bare name => rfl
  | detailed name operator => cases operator <;> rfl

end FieldDeclaration

namespace ConfigurationFile

/-- The fields come back from the list that was written of them. -/
theorem fieldsOf?_toJson (fields : List FieldDeclaration) :
    fieldsOf? (.array (writtenItems (fields.map FieldDeclaration.toJson))) = some fields := by
  induction fields with
  | nil => rfl
  | cons declaration rest ih =>
      simp only [fieldsOf?] at ih ⊢
      rw [List.map_cons, writtenItems, List.mapM_cons, declaration.fieldOf?_toJson, ih]
      rfl

variable (file : ConfigurationFile)

/-- The members of the document of a file. -/
noncomputable def documentMembers : List (String × Written) :=
  writtenMembers ([("version", .string configurationVersion), ("table", file.table.toJson),
    ("fields", .array (file.fields.map FieldDeclaration.toJson))] ++
    optionalMember "customRulePrefix" file.rulePrefix)

/-- The document of a file is nowhere deep, and has no numbers. -/
theorem isPlain_document : IsPlain (.object file.documentMembers) := by
  have htextual : IsTextual 3 (.object file.documentMembers) := by
    refine .object fun member hmember => ?_
    simp only [List.cons_append, List.nil_append, List.mem_cons] at hmember
    obtain rfl | rfl | rfl | hmember := hmember
    · exact .string 2 configurationVersion
    · exact file.table.isTextual_toJson.mono (by decide)
    · refine .array fun item hitem => ?_
      obtain ⟨declaration, -, rfl⟩ := List.mem_map.mp hitem
      exact declaration.isTextual_toJson
    · exact .optionalMember hmember
  exact ⟨Nat.lt_of_le_of_lt htextual.depth_le (by decide), by simp [htextual.numerals_eq]⟩

/-- Each setting of a file is given once, and the prefix if there is one. -/
theorem givenFor_document :
    givenFor "version" file.documentMembers = [.string configurationVersion] ∧
      givenFor "table" file.documentMembers = [file.table.toJson.written] ∧
      givenFor "fields" file.documentMembers =
        [.array (writtenItems (file.fields.map FieldDeclaration.toJson))] ∧
      givenFor "customRulePrefix" file.documentMembers =
        (file.rulePrefix.map Written.string).toList := by
  obtain ⟨table, fields, rulePrefix⟩ := file
  cases rulePrefix <;> exact ⟨rfl, rfl, rfl, rfl⟩

/-- The document of a file has the version that is known. -/
theorem versionOf?_document :
    versionOf? file.documentMembers = some (.string configurationVersion) := by
  rw [versionOf?, file.givenFor_document.1]
  rfl

/-- The settings of the document of a file are those of the file. -/
theorem fileOf?_document : fileOf? file.documentMembers = some file := by
  obtain ⟨hversion, htable, hfields, hprefix⟩ := file.givenFor_document
  unfold fileOf? fileRecord?
  rw [hversion, htable, hfields, hprefix]
  simp only [atMostOnce?, file.table.recordOf?_toJson, fieldsOf?_toJson]
  obtain ⟨table, fields, rulePrefix⟩ := file
  cases rulePrefix <;> rfl

/-- The text that is written for a file is read as that file. -/
theorem parse_text : parse file.text = .ok file := by
  have htext : Json.IsTextOf (.object file.documentMembers) file.text :=
    Json.isTextOf_indented file.toJson (by simp [Json.AreBlank, Json.isDocumentBlank])
  exact (parse_of_isKnownVersion htext file.isPlain_document file.versionOf?_document rfl).1 file
    file.fileOf?_document

end ConfigurationFile

end RequestFilter
