import RequestFilter.Program
import RequestFilter.Proofs.Bag.Decoded
import RequestFilter.Proofs.Sql.Phrase
import RequestFilter.Storage.Tree

/-!
# What a compilation gives

A configuration that is accepted for one request is accepted for all of them, and
the statement of a request is the selection from the configured table under the
phrases of its declared fields, in the order of the request.
-/

namespace RequestFilter

open Sql

namespace Spec

theorem operator?_ne_customOnly {spec : Spec} (h : spec.customOnlyFields = []) (field : String) :
    spec.operator? field ≠ some .customOnly := by
  intro hoperator
  have hentry := spec.fields.find?_eq_some_iff.mp hoperator
  have hfield : field ∈ spec.customOnlyFields :=
    List.mem_map.mpr ⟨(field, .customOnly), List.mem_filter.mpr ⟨hentry, by simp⟩, rfl⟩
  rw [h] at hfield
  cases hfield

end Spec

/-- The phrases of a request stand side by side with its usable values of declared fields. -/
def FilteredBy (spec : Spec) (knownAs : String) (bag : Bag) (phrases : List Phrase) : Prop :=
  List.Forall₂ (fun entry phrase => ∃ operator, spec.operator? entry.1 = some operator ∧
      Phrase.Filters knownAs entry.1 operator entry.2 phrase)
    (bag.entries.filter fun entry => entry.2.isUsable && spec.isDeclared entry.1) phrases

namespace Configuration

variable {configuration : Configuration}

/-- A configuration of which no field needs a custom rule makes a definition without rules. -/
theorem build_definitionBuilder (h : configuration.spec.customOnlyFields = []) :
    (configuration.definitionBuilder Select TargetError).build =
      .ok ⟨configuration.spec, .empty configuration.rulePrefix, .default⟩ := by
  have hruled : (configuration.definitionBuilder Select TargetError).unruledField? = none := by
    unfold DefinitionBuilder.unruledField?
    change List.find? _ configuration.spec.customOnlyFields = none
    rw [h]
    rfl
  rw [DefinitionBuilder.build, hruled]
  rfl

theorem customOnlyFields_of_compile {bag : Bag} {compiled : Compiled}
    (h : configuration.compile bag = .ok compiled) :
    configuration.spec.customOnlyFields = [] := by
  unfold compile at h
  split at h
  next hnone => exact hnone
  next => cases h

/-- The configuration of a file has the file's table and declared fields. -/
theorem table_and_spec_of_ofFile {file : ConfigurationFile}
    (h : ofFile file = .ok configuration) :
    configuration.table = file.table ∧
      Spec.ofDeclarations file.declarations = .ok configuration.spec := by
  unfold ofFile at h
  split at h
  next => cases h
  next =>
    split at h
    next spec hspec =>
      cases h
      exact ⟨rfl, hspec⟩
    next => cases h

section Request

variable (configuration : Configuration) (bag : Bag)

/-- The definition that a configuration makes: its declared fields, and no rules. -/
def definition : Definition Select TargetError :=
  ⟨configuration.spec, .empty configuration.rulePrefix, .default⟩

/-- The predicates of a request, in its order. -/
def predicates : List Expression :=
  (Sanitizer.default.sanitize bag).bag.entries.flatMap
    (configuration.definition.entryPredicates ⟨configuration.table.effectiveAlias⟩)

/-- The selection from the configured table, narrowed by the predicates of a request. -/
def narrowedSelect : Select :=
  { configuration.baseSelect with condition := (configuration.predicates bag).foldl .conj .always }

end Request

/-- Every request is compiled to its narrowed select. -/
theorem exists_compile_eq_narrowedSelect (h : configuration.spec.customOnlyFields = [])
    (bag : Bag) :
    ∃ warnings, configuration.compile bag = .ok ⟨configuration.narrowedSelect bag, warnings⟩ := by
  let source : Source := .table (.named configuration.table.schema configuration.table.name)
    configuration.table.effectiveAlias
  have hrules : configuration.definition.rules.handlers.entries = [] := rfl
  have hsource : configuration.baseSelect.source = some source := rfl
  obtain ⟨report, hrun⟩ := Definition.runOn_apply hrules bag hsource
  refine ⟨report.warnings, ?_⟩
  unfold definition at hrun
  unfold compile
  rw [h]
  simp only [build_definitionBuilder h]
  rw [hrun]
  rfl

/-- No predicate of a request is the literal truth. -/
theorem isBool_of_mem_predicates {bag : Bag} :
    ∀ predicate ∈ configuration.predicates bag, predicate.isBool true = false := by
  intro predicate hpredicate
  obtain ⟨entry, -, hentry⟩ := List.mem_flatMap.mp hpredicate
  exact Definition.isBool_of_mem_entryPredicates hentry

/-- The select of a request, in phrases. -/
theorem exists_compile_eq_ok (h : configuration.spec.customOnlyFields = []) (bag : Bag) :
    ∃ compiled phrases, configuration.compile bag = .ok compiled ∧
      FilteredBy configuration.spec configuration.table.effectiveAlias bag phrases ∧
      Phrase.ofFragments compiled.select.fragments =
        Phrase.selection configuration.table ++ Phrase.condition phrases := by
  obtain ⟨warnings, hcompile⟩ := exists_compile_eq_narrowedSelect h bag
  refine ⟨_, (configuration.predicates bag).map (Phrase.ofFragments ∘ Expression.fragments),
    hcompile, ?_, ?_⟩
  · unfold FilteredBy
    rw [List.forall₂_map_right_iff]
    have hcustom : ∀ field, configuration.definition.spec.operator? field ≠ some .customOnly :=
      Spec.operator?_ne_customOnly h
    exact Definition.forall₂_entryPredicates hcustom ⟨configuration.table.effectiveAlias⟩ bag
  · rw [← Phrase.ofFragments_conditionFragments isBool_of_mem_predicates]
    exact Phrase.ofFragments_select _ _

end Configuration

namespace ConfigurationFile

/-- A file that is accepted with one request takes every request, and the statement consists of
the phrases of that request. -/
theorem exists_compile_eq_ok {file : ConfigurationFile} {known : Bag} {result : Compiled}
    (h : file.compile known = .ok result) (bag : Bag) :
    ∃ spec compiled phrases, Spec.ofDeclarations file.declarations = .ok spec ∧
      file.compile bag = .ok compiled ∧
      FilteredBy spec file.table.effectiveAlias bag phrases ∧
      compiled.statement.text =
        (Phrase.selection file.table ++ Phrase.condition phrases).text 0 ∧
      compiled.statement.parameters = phrases.flatMap Phrase.bound := by
  unfold compile at h ⊢
  cases hfile : Configuration.ofFile file with
  | error error =>
      rw [hfile] at h
      cases h
  | ok configuration =>
      rw [hfile] at h
      have hcustom := Configuration.customOnlyFields_of_compile h
      obtain ⟨compiled, phrases, hcompiled, hfiltered, hselect⟩ :=
        Configuration.exists_compile_eq_ok hcustom bag
      obtain ⟨htable, hspec⟩ := Configuration.table_and_spec_of_ofFile hfile
      obtain ⟨htext, hparameters⟩ := Phrase.statement_ofFragments compiled.select.fragments
      rw [hselect, htable] at htext hparameters
      refine ⟨configuration.spec, compiled, phrases, hspec, hcompiled, htable ▸ hfiltered, htext,
        ?_⟩
      rw [Compiled.statement, Select.statement, hparameters, Phrase.bound_append,
        Phrase.bound_selection, Phrase.bound_condition, List.nil_append]

end ConfigurationFile

namespace Program

variable {tree after : FileTree} {directory : String}

/-- A compilation succeeds where the configuration is read and takes the request. -/
theorem runOn_compile_eq_ok_iff {bag : Bag} {compiled : Compiled} :
    Building.runOn (compile (m := InMemory) directory bag) tree = (.ok compiled, after) ↔
      ∃ file, Building.runOn (ConfigurationFile.readFrom (m := InMemory) directory) tree =
          (.ok file, after) ∧ file.compile bag = .ok compiled := by
  unfold compile
  rw [Building.runOn_bind, Building.runOn_adapt]
  obtain ⟨read, middle⟩ :=
    Building.runOn (ConfigurationFile.readFrom (m := InMemory) directory) tree
  cases read with
  | error error => simp [Except.mapError]
  | ok file =>
      cases hcompiled : file.compile bag with
      | error error => simp [Except.mapError, hcompiled]
      | ok result => simpa [Except.mapError, hcompiled] using and_comm

/-- A directory whose configuration is accepted with one bag compiles every request. The statement
is the selection from the configured table under the phrases of the declared fields with usable
values, one for each and in the order of the request; it binds what the phrases bind; and what
is not bound of a request is a truth value or a numeral. -/
theorem compile_eq_phrases (tree after : FileTree) (directory : String) (known : Bag)
    (result : Compiled)
    (haccepted : Building.runOn (compile (m := InMemory) directory known) tree =
      (.ok result, after))
    (request : Request) (bag : Bag) (hrequest : request.bag = .ok bag) :
    ∃ file spec compiled phrases,
      Building.runOn (ConfigurationFile.readFrom (m := InMemory) directory) tree =
        (.ok file, after) ∧
      Spec.ofDeclarations file.declarations = .ok spec ∧
      Building.runOn (compile (m := InMemory) directory bag) tree = (.ok compiled, after) ∧
      FilteredBy spec file.table.effectiveAlias bag phrases ∧
      compiled.statement.text =
        (Phrase.selection file.table ++ Phrase.condition phrases).text 0 ∧
      compiled.statement.parameters = phrases.flatMap Phrase.bound ∧
      ∀ entry ∈ bag.entries, ∀ operand ∈ entry.2.scalars, operand.kind ≠ .string →
        operand.text = "true" ∨ operand.text = "false" ∨ IsNumeral operand.text.toList := by
  obtain ⟨file, hfile, hknown⟩ := runOn_compile_eq_ok_iff.mp haccepted
  obtain ⟨spec, compiled, phrases, hspec, hcompiled, hfiltered, htext, hparameters⟩ :=
    ConfigurationFile.exists_compile_eq_ok hknown bag
  refine ⟨file, spec, compiled, phrases, hfile, hspec,
    runOn_compile_eq_ok_iff.mpr ⟨file, hfile, hcompiled⟩, hfiltered, htext, hparameters, ?_⟩
  intro entry hentry operand hoperand hkind
  have hfinite := Request.isFinite_of_bag hrequest entry hentry operand hoperand
  exact hfinite.text_of_kind_ne_string hkind

def usersFile : ConfigurationFile :=
  ⟨⟨some "app", "users", some "u"⟩, [.bare "status", .detailed "name" (some "like")], none⟩

def usersTree : FileTree :=
  FileTree.empty.put [configurationFileName] (.file ("\x7b\"version\": \"1\", \"table\": " ++
    "\x7b\"schema\": \"app\", \"name\": \"users\", \"alias\": \"u\"\x7d, \"fields\": " ++
    "[\"status\", \x7b\"name\": \"name\", \"operator\": \"like\"\x7d]\x7d").toUTF8)

def usersRequest : Request :=
  .document "\x7b\"status\": [1.50, \"3\"], \"page\": 2, \"name\": true\x7d"

/-- A numeral and a string for an exact field, a truth value for a pattern field, and a field that
is not declared. -/
theorem compile_eq_phrases_users :
    ∃ result after bag,
      Building.runOn (compile (m := InMemory) "/" ∅) usersTree = (.ok result, after) ∧
      usersRequest.bag = .ok bag ∧
      ∃ (file : ConfigurationFile) (spec : Spec) (compiled : Compiled) (phrases : List Phrase),
        Building.runOn (compile (m := InMemory) "/" bag) usersTree = (.ok compiled, after) ∧
        FilteredBy spec file.table.effectiveAlias bag phrases ∧
        compiled.statement.text =
          (Phrase.selection file.table ++ Phrase.condition phrases).text 0 ∧
        compiled.statement.parameters = phrases.flatMap Phrase.bound ∧
        compiled.statement = ⟨"SELECT * FROM \"app\".\"users\" AS \"u\" WHERE " ++
          "((\"u\".\"status\" IN (1.5, $1)) AND (\"u\".\"name\" ILIKE $2))",
          ["3", "%true%"], 2⟩ := by
  have hanswer : ∀ {ε α : Type} {answer : Except ε α} {a : α},
      answer.toOption = some a → answer = .ok a := by
    intro ε α answer a h
    cases answer <;> cases h
    rfl
  have hread : (Building.runOn (ConfigurationFile.readFrom (m := InMemory) "/")
      usersTree).1.toOption = some usersFile := by
    decide +kernel
  have hempty : (usersFile.compile ∅).toOption.isSome = true := by
    decide +kernel
  have hrequest : (usersRequest.bag.toOption.bind fun bag =>
      (usersFile.compile bag).toOption.map Compiled.statement) =
        some ⟨"SELECT * FROM \"app\".\"users\" AS \"u\" WHERE " ++
          "((\"u\".\"status\" IN (1.5, $1)) AND (\"u\".\"name\" ILIKE $2))",
          ["3", "%true%"], 2⟩ := by
    decide +kernel
  obtain ⟨result, hresult⟩ := Option.isSome_iff_exists.mp hempty
  obtain ⟨bag, hbag, hcompiled⟩ := Option.bind_eq_some_iff.mp hrequest
  obtain ⟨narrowed, hcompiled, hstatement⟩ := Option.map_eq_some_iff.mp hcompiled
  cases hrun : Building.runOn (ConfigurationFile.readFrom (m := InMemory) "/") usersTree with
  | mk read after =>
      rw [hrun] at hread
      obtain rfl : read = .ok usersFile := hanswer hread
      have haccepted := runOn_compile_eq_ok_iff.mpr ⟨usersFile, hrun, hanswer hresult⟩
      have hnarrowed := runOn_compile_eq_ok_iff.mpr ⟨usersFile, hrun, hanswer hcompiled⟩
      obtain ⟨file, spec, compiled, phrases, -, -, hcompile, hfiltered, htext, hparameters, -⟩ :=
        compile_eq_phrases usersTree after "/" ∅ result haccepted usersRequest bag (hanswer hbag)
      obtain rfl : narrowed = compiled := by
        rw [hcompile] at hnarrowed
        cases hnarrowed
        rfl
      exact ⟨result, after, bag, haccepted, hanswer hbag, file, spec, narrowed, phrases, hcompile,
        hfiltered, htext, hparameters, hstatement⟩

end Program

end RequestFilter
