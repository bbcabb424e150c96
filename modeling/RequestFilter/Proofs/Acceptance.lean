import RequestFilter.Proofs.Compilation
import RequestFilter.Proofs.Declarations

/-!
# Which requests are compiled

Whether a directory compiles a request, and the error with which it refuses one,
depends on its configuration alone. A configuration that is read, has a named
table and declares fields none of which needs a custom rule takes every request;
any other one refuses every request with one and the same error.
-/

namespace RequestFilter

open Sql

namespace ConfigurationFile

/-- A file with a named table, whose declarations make a specification without a field that only a
rule can filter on. -/
structure TakesRequests (file : ConfigurationFile) : Prop where
  named : isBlankName file.table.name = false
  declared : ∃ spec, Spec.ofDeclarations file.declarations = .ok spec
  ruleless : ∀ declaration ∈ file.declarations, declaration.operator ≠ .ok .customOnly

/-- The error with which a file refuses requests: the name of the table comes first, then the first
declaration at fault, then all the fields that need a rule. -/
inductive Refuses (file : ConfigurationFile) : CompilationError → Prop
  | unnamed (hunnamed : isBlankName file.table.name = true) :
      Refuses file (.configuration .emptyTableName)
  | undeclared {error : DefinitionError} (hnamed : isBlankName file.table.name = false)
      (herror : Spec.ofDeclarations file.declarations = .error error) :
      Refuses file (.configuration (.invalidFields error))
  | unruled {spec : Spec} {field : String} {others : List String}
      (hnamed : isBlankName file.table.name = false)
      (hspec : Spec.ofDeclarations file.declarations = .ok spec)
      (hunruled : (file.declarations.filter Declaration.isCustomOnly).map Declaration.field =
        field :: others) :
      Refuses file (.customFields (field :: others))

variable {file : ConfigurationFile}

/-- A file takes requests unless there is an error with which it refuses them. -/
theorem takesRequests_or_refuses (file : ConfigurationFile) :
    file.TakesRequests ∨ ∃ error, file.Refuses error := by
  cases hname : isBlankName file.table.name with
  | true => exact Or.inr ⟨_, .unnamed hname⟩
  | false =>
      cases hspec : Spec.ofDeclarations file.declarations with
      | error error => exact Or.inr ⟨_, .undeclared hname hspec⟩
      | ok spec =>
          cases hfields : (file.declarations.filter Declaration.isCustomOnly).map
              Declaration.field with
          | cons field others => exact Or.inr ⟨_, .unruled hname hspec hfields⟩
          | nil =>
              refine Or.inl ⟨hname, ⟨spec, hspec⟩, fun declaration hdeclaration hoperator => ?_⟩
              rw [List.map_eq_nil_iff, List.filter_eq_nil_iff] at hfields
              exact hfields declaration hdeclaration (Declaration.isCustomOnly_iff.mpr hoperator)

/-- Every request is compiled, whatever its fields and values are. -/
theorem TakesRequests.exists_compile (h : file.TakesRequests) (bag : Bag) :
    ∃ compiled, file.compile bag = .ok compiled := by
  obtain ⟨spec, hspec⟩ := h.declared
  let configuration : Configuration :=
    ⟨file.table, spec, file.rulePrefix.getD defaultRulePrefix⟩
  have hcustom : configuration.spec.customOnlyFields = [] := by
    rw [Spec.customOnlyFields_of_ofDeclarations hspec, List.map_eq_nil_iff,
      List.filter_eq_nil_iff]
    intro declaration hdeclaration honly
    exact h.ruleless declaration hdeclaration (Declaration.isCustomOnly_iff.mp honly)
  obtain ⟨warnings, hcompiled⟩ := Configuration.exists_compile_eq_narrowedSelect hcustom bag
  rw [compile, Configuration.ofFile_of_named h.named, hspec]
  exact ⟨_, hcompiled⟩

/-- A refusal does not look at the request. -/
theorem Refuses.compile_eq {error : CompilationError} (h : file.Refuses error) (bag : Bag) :
    file.compile bag = .error error := by
  cases h with
  | unnamed hunnamed =>
      rw [compile, Configuration.ofFile, hunnamed]
      rfl
  | undeclared hnamed herror =>
      rw [compile, Configuration.ofFile_of_named hnamed, herror]
  | unruled hnamed hspec hunruled =>
      rw [compile, Configuration.ofFile_of_named hnamed, hspec]
      simp only [Configuration.compile, Spec.customOnlyFields_of_ofDeclarations hspec, hunruled]

theorem exists_compile_iff (bag : Bag) :
    (∃ compiled, file.compile bag = .ok compiled) ↔ file.TakesRequests := by
  refine ⟨fun ⟨compiled, hcompiled⟩ => ?_, fun h => h.exists_compile bag⟩
  rcases file.takesRequests_or_refuses with htakes | ⟨error, hrefuses⟩
  · exact htakes
  · rw [hrefuses.compile_eq bag] at hcompiled
    cases hcompiled

theorem compile_eq_error_iff (bag : Bag) {error : CompilationError} :
    file.compile bag = .error error ↔ file.Refuses error := by
  refine ⟨fun herror => ?_, fun h => h.compile_eq bag⟩
  rcases file.takesRequests_or_refuses with htakes | ⟨other, hrefuses⟩
  · obtain ⟨compiled, hcompiled⟩ := htakes.exists_compile bag
    rw [herror] at hcompiled
    cases hcompiled
  · rw [hrefuses.compile_eq bag] at herror
    cases herror
    exact hrefuses

end ConfigurationFile

namespace Program

section Directory

variable (tree : FileTree) (directory : String)

/-- The configuration that is read from a directory. -/
def fileIn : Except ReadingError ConfigurationFile :=
  (Building.runOn (ConfigurationFile.readFrom (m := InMemory) directory) tree).1

/-- What the compilation of a bag in a directory comes to. -/
def answerTo (bag : Bag) : Except ProgramError Compiled :=
  (Building.runOn (compile (m := InMemory) directory bag) tree).1

/-- The error with which a directory refuses requests: its configuration is not read, or it is read
and refuses them. -/
inductive Refuses : ProgramError → Prop
  | unread {error : ReadingError} (herror : fileIn tree directory = .error error) :
      Refuses (.reading error)
  | refused {file : ConfigurationFile} {error : CompilationError}
      (hfile : fileIn tree directory = .ok file) (herror : file.Refuses error) :
      Refuses (.compilation error)

theorem answerTo_eq (bag : Bag) :
    answerTo tree directory bag =
      match fileIn tree directory with
      | .ok file => (file.compile bag).mapError ProgramError.compilation
      | .error error => .error (.reading error) := by
  unfold answerTo compile
  rw [Building.runOn_bind, Building.runOn_adapt, ← fileIn]
  cases fileIn tree directory with
  | error error => rfl
  | ok file =>
      cases hcompiled : file.compile bag with
      | error error => simp [Except.mapError, hcompiled]
      | ok result => simp [Except.mapError, hcompiled]

end Directory

variable {tree : FileTree} {directory : String}

theorem exists_answerTo_iff (bag : Bag) :
    (∃ compiled, answerTo tree directory bag = .ok compiled) ↔
      ∃ file, fileIn tree directory = .ok file ∧ file.TakesRequests := by
  rw [answerTo_eq]
  cases fileIn tree directory with
  | error error => simp
  | ok file =>
      simp only [Except.ok.injEq, exists_eq_left', ← ConfigurationFile.exists_compile_iff bag]
      cases file.compile bag <;> simp [Except.mapError]

theorem answerTo_eq_error_iff (bag : Bag) {error : ProgramError} :
    answerTo tree directory bag = .error error ↔ Refuses tree directory error := by
  rw [answerTo_eq]
  constructor
  · intro herror
    split at herror
    next file hfile =>
      cases hcompiled : file.compile bag with
      | ok compiled =>
          rw [hcompiled] at herror
          cases herror
      | error reason =>
          rw [hcompiled] at herror
          cases herror
          exact .refused hfile (ConfigurationFile.compile_eq_error_iff bag |>.mp hcompiled)
    next reason hfile =>
      cases herror
      exact .unread hfile
  · intro hrefuses
    cases hrefuses with
    | unread herror => rw [herror]
    | refused hfile herror =>
        rw [hfile]
        simp only [herror.compile_eq bag, Except.mapError]

/-- Requests are compiled where the configuration is read, has a named table and declares fields
none of which needs a custom rule; elsewhere they are refused with the error that the configuration
gives. So two requests to one directory have the same ending, and neither a missing rule nor a
missing source is ever the reason of a refusal. -/
theorem answerTo_depends_on_configuration (tree : FileTree) (directory : String) :
    (∀ bag, (∃ compiled, answerTo tree directory bag = .ok compiled) ↔
      ∃ file, fileIn tree directory = .ok file ∧ file.TakesRequests) ∧
    (∀ bag error, answerTo tree directory bag = .error error ↔ Refuses tree directory error) ∧
    (∀ bag bag', (answerTo tree directory bag).map (fun _ => ()) =
      (answerTo tree directory bag').map fun _ => ()) ∧
    (∀ bag error, answerTo tree directory bag ≠ .error (.compilation (.definition error))) ∧
    ∀ bag error, answerTo tree directory bag ≠ .error (.compilation (.target error)) := by
  refine ⟨fun bag => exists_answerTo_iff bag, fun bag error => answerTo_eq_error_iff bag,
    ?_, ?_, ?_⟩
  · intro bag bag'
    cases hanswer : answerTo tree directory bag with
    | error error =>
        -- the error that one request meets is that of every other one
        rw [(answerTo_eq_error_iff bag').mpr ((answerTo_eq_error_iff bag).mp hanswer)]
    | ok compiled =>
        obtain ⟨compiled', hanswer'⟩ :=
          (exists_answerTo_iff bag').mpr ((exists_answerTo_iff bag).mp ⟨compiled, hanswer⟩)
        rw [hanswer']
        rfl
  · intro bag error herror
    cases (answerTo_eq_error_iff bag).mp herror with
    | refused _ hrefuses => cases hrefuses
  · intro bag error herror
    cases (answerTo_eq_error_iff bag).mp herror with
    | refused _ hrefuses => cases hrefuses

end Program

end RequestFilter
