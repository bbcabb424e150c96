import Mathlib.Data.List.Forall2
import Mathlib.Data.List.Induction
import Mathlib.Data.List.TakeWhile
import RequestFilter.Configuration
import RequestFilter.Proofs.Spec

/-!
# Declarations at fault

Declarations make a specification when all of them have a name and an operator
and no two have the same name. Otherwise the first one at fault is reported, for
its name before its operator, and for its operator before its repetition. The
fields of a configuration with a named table are declarations of this kind.
-/

namespace RequestFilter

/-- Nothing is left of blanks, and something is left of any other text. -/
theorem trimBlanks_eq_nil_iff {cs : List Char} : trimBlanks cs = [] ↔ cs.all isBlank = true := by
  induction cs with
  | nil => exact iff_of_true rfl rfl
  | cons c rest ih =>
      cases hblank : isBlank c with
      | true =>
          have htrim : trimBlanks (c :: rest) = trimBlanks rest := by
            rw [trimBlanks, List.dropWhile_cons_of_pos hblank, trimBlanks]
          rw [htrim, ih, List.all_cons, hblank, Bool.true_and]
      | false =>
          have hstop : ¬isBlank c = true := Bool.not_eq_true _ ▸ hblank
          rw [trimBlanks, List.dropWhile_cons_of_neg hstop, List.reverse_eq_nil_iff,
            List.dropWhile_eq_nil_iff, List.all_cons, hblank]
          exact iff_of_false (fun hall => hstop (hall c (by simp))) Bool.false_ne_true

theorem isBlankName_eq_true_iff {name : String} :
    isBlankName name = true ↔ trimBlanks name.toList = [] :=
  trimBlanks_eq_nil_iff.symm

theorem isBlankName_eq_false_iff {name : String} :
    isBlankName name = false ↔ trimBlanks name.toList ≠ [] := by
  rw [Bool.eq_false_iff, Ne, isBlankName_eq_true_iff]

namespace Operator

/-- The names by which operators are declared. -/
def declaredNames : List (String × Operator) :=
  [("exact_or_in", .exactOrIn), ("exact", .exactOrIn), ("in", .exactOrIn), ("=", .exactOrIn),
    ("like", .like), ("custom", .customOnly)]

/-- Without the blanks around it, and in whatever case its letters are, this is a name of the
operator. -/
def IsDeclaredBy (operator : Operator) (name : String) : Prop :=
  ∃ known, (known, operator) ∈ declaredNames ∧
    sameIgnoringCase known.toList (trimBlanks name.toList) = true

theorem answersTo_iff {operator : Operator} {name : String} :
    operator.answersTo (trimBlanks name.toList) = true ↔ operator.IsDeclaredBy name := by
  cases operator <;>
    simp [answersTo, IsDeclaredBy, declaredNames, Operator.name, aliases]

instance (operator : Operator) (name : String) : Decidable (operator.IsDeclaredBy name) :=
  decidable_of_iff _ answersTo_iff

/-- No name is one of two operators. -/
theorem eq_of_isDeclaredBy {operator operator' : Operator} {name : String}
    (h : operator.IsDeclaredBy name) (h' : operator'.IsDeclaredBy name) :
    operator = operator' := by
  obtain ⟨known, hknown, hsame⟩ := h
  obtain ⟨known', hknown', hsame'⟩ := h'
  have hdistinct : ∀ entry ∈ declaredNames, ∀ entry' ∈ declaredNames,
      entry.1.toList.map Char.toLower = entry'.1.toList.map Char.toLower →
        entry.2 = entry'.2 := by
    decide
  rw [sameIgnoringCase, beq_iff_eq] at hsame hsame'
  exact hdistinct _ hknown _ hknown' (hsame.trans hsame'.symm)

theorem isDeclaredBy_of_ofName? {operator : Operator} {name : String}
    (h : ofName? name = some operator) : operator.IsDeclaredBy name := by
  have hanswers := List.find?_some
    (p := fun known : Operator => known.answersTo (trimBlanks name.toList)) h
  exact answersTo_iff.mp hanswers

theorem ofName?_eq_some_iff {operator : Operator} {name : String} :
    ofName? name = some operator ↔ operator.IsDeclaredBy name := by
  refine ⟨isDeclaredBy_of_ofName?, fun h => ?_⟩
  cases hfound : ofName? name with
  | some found => rw [eq_of_isDeclaredBy (isDeclaredBy_of_ofName? hfound) h]
  | none =>
      have hmem : operator ∈ all := by cases operator <;> simp [all]
      exact absurd (answersTo_iff.mpr h) (List.find?_eq_none.mp hfound operator hmem)

end Operator

namespace Declaration

/-- The operator that a declaration comes to: the given one, or the one of the given name. -/
inductive ComesTo : Declaration → Operator → Prop
  | given (field : String) (operator : Operator) : ComesTo ⟨field, .operator operator⟩ operator
  | named {field name : String} {operator : Operator} (hname : operator.IsDeclaredBy name) :
      ComesTo ⟨field, .named name⟩ operator

/-- What is wrong with a declaration behind earlier ones. -/
inductive Fault (earlier : List Declaration) : Declaration → DefinitionError → Prop
  | unnamed {declaration : Declaration} (hblank : trimBlanks declaration.field.toList = []) :
      Fault earlier declaration .emptyFieldName
  | unknown {field name : String} (hnamed : trimBlanks field.toList ≠ [])
      (hunknown : ∀ operator : Operator, ¬operator.IsDeclaredBy name) :
      Fault earlier ⟨field, .named name⟩ (.unknownOperator field name)
  | repeated {declaration : Declaration} {operator : Operator}
      (hnamed : trimBlanks declaration.field.toList ≠ []) (hoperator : declaration.ComesTo operator)
      (hrepeated : declaration.field ∈ earlier.map field) :
      Fault earlier declaration (.duplicateField declaration.field)

variable {declaration : Declaration}

theorem operator_eq_ok_iff {operator : Operator} :
    declaration.operator = .ok operator ↔ declaration.ComesTo operator := by
  obtain ⟨field, given | name⟩ := declaration
  · constructor
    · intro h
      cases h
      exact .given field operator
    · intro h
      cases h
      rfl
  · have hparse : (⟨field, .named name⟩ : Declaration).operator = .ok operator ↔
        Operator.ofName? name = some operator := by
      change Operator.parse field name = .ok operator ↔ _
      rw [Operator.parse]
      cases Operator.ofName? name <;> simp
    rw [hparse, Operator.ofName?_eq_some_iff]
    exact ⟨.named, fun h => by cases h; assumption⟩

theorem operator_of_unknown {field name : String}
    (h : ∀ operator : Operator, ¬operator.IsDeclaredBy name) :
    (⟨field, .named name⟩ : Declaration).operator = .error (.unknownOperator field name) := by
  have hname : Operator.ofName? name = none :=
    Option.eq_none_iff_forall_ne_some.mpr fun operator hsome =>
      h operator (Operator.ofName?_eq_some_iff.mp hsome)
  change Operator.parse field name = _
  rw [Operator.parse, hname]

/-- A declaration is at fault, or it has a new name and an operator. -/
theorem fault_or_comesTo (earlier : List Declaration) (declaration : Declaration) :
    (∃ error, declaration.Fault earlier error) ∨
      trimBlanks declaration.field.toList ≠ [] ∧ (∃ operator, declaration.ComesTo operator) ∧
        declaration.field ∉ earlier.map field := by
  by_cases hblank : trimBlanks declaration.field.toList = []
  · exact Or.inl ⟨_, .unnamed hblank⟩
  · by_cases hoperator : ∃ operator, declaration.ComesTo operator
    · obtain ⟨operator, hcomes⟩ := hoperator
      by_cases hrepeated : declaration.field ∈ earlier.map field
      · exact Or.inl ⟨_, .repeated hblank hcomes hrepeated⟩
      · exact Or.inr ⟨hblank, ⟨operator, hcomes⟩, hrepeated⟩
    · obtain ⟨field, given | name⟩ := declaration
      · exact absurd ⟨given, .given field given⟩ hoperator
      · exact Or.inl ⟨_, .unknown hblank fun operator hname => hoperator ⟨operator, .named hname⟩⟩

end Declaration

/-- Every field has a name and an operator, and no two have the same name. -/
structure WellDeclared (declarations : List Declaration) : Prop where
  named : ∀ declaration ∈ declarations, trimBlanks declaration.field.toList ≠ []
  known : ∀ declaration ∈ declarations, ∃ operator, declaration.ComesTo operator
  distinct : (declarations.map Declaration.field).Nodup

/-- The error of the first declaration that is at fault: those before it are not. -/
def FirstFault (declarations : List Declaration) (error : DefinitionError) : Prop :=
  ∃ earlier declaration later, declarations = earlier ++ declaration :: later ∧
    WellDeclared earlier ∧ declaration.Fault earlier error

theorem wellDeclared_append_singleton_iff {earlier : List Declaration}
    {declaration : Declaration} :
    WellDeclared (earlier ++ [declaration]) ↔
      WellDeclared earlier ∧ trimBlanks declaration.field.toList ≠ [] ∧
        (∃ operator, declaration.ComesTo operator) ∧
          declaration.field ∉ earlier.map Declaration.field := by
  have hfields : ((earlier ++ [declaration]).map Declaration.field).Nodup ↔
      declaration.field ∉ earlier.map Declaration.field ∧
        (earlier.map Declaration.field).Nodup := by
    rw [List.map_append, ← List.nodup_cons]
    exact (List.perm_append_singleton _ _).nodup_iff
  constructor
  · rintro ⟨hnamed, hknown, hdistinct⟩
    obtain ⟨hnamed, hname⟩ := List.forall_mem_append.mp hnamed
    obtain ⟨hknown, hoperator⟩ := List.forall_mem_append.mp hknown
    obtain ⟨hfresh, hdistinct⟩ := hfields.mp hdistinct
    exact ⟨⟨hnamed, hknown, hdistinct⟩, hname _ List.mem_cons_self,
      hoperator _ List.mem_cons_self, hfresh⟩
  · rintro ⟨⟨hnamed, hknown, hdistinct⟩, hname, hoperator, hfresh⟩
    exact ⟨List.forall_mem_append.mpr ⟨hnamed, List.forall_mem_singleton.mpr hname⟩,
      List.forall_mem_append.mpr ⟨hknown, List.forall_mem_singleton.mpr hoperator⟩,
      hfields.mpr ⟨hfresh, hdistinct⟩⟩

theorem WellDeclared.nil : WellDeclared [] :=
  ⟨List.forall_mem_nil _, List.forall_mem_nil _, List.nodup_nil⟩

/-- The entries are the declared fields in order, each once and with its operator, and a lookup
finds what is listed. -/
structure Spec.Lists (spec : Spec) (declarations : List Declaration) : Prop where
  entries : List.Forall₂ (fun declaration entry =>
    entry.1 = declaration.field ∧ declaration.ComesTo entry.2) declarations spec.entries
  once : (spec.entries.map Prod.fst).Nodup
  lookup : ∀ field operator, spec.operator? field = some operator ↔
    (field, operator) ∈ spec.entries

namespace Spec

variable {spec : Spec} {earlier declarations : List Declaration} {declaration : Declaration}

theorem ofDeclarations_append_singleton :
    ofDeclarations (earlier ++ [declaration]) =
      ofDeclarations earlier >>= fun spec => spec.declare declaration := by
  rw [ofDeclarations, List.foldlM_append, ← ofDeclarations]
  refine congrArg _ (funext fun spec => ?_)
  rw [List.foldlM_cons]
  cases spec.declare declaration <;> rfl

variable (hnames : spec.fields.names = earlier.map Declaration.field)

include hnames

/-- What is at fault with a declaration is what its addition to the earlier ones fails with. -/
theorem declare_of_fault {error : DefinitionError} (hfault : declaration.Fault earlier error) :
    spec.declare declaration = .error error := by
  cases hfault with
  | unnamed hblank =>
      rw [declare, isBlankName_eq_true_iff.mpr hblank]
      rfl
  | unknown hnamed hunknown =>
      rw [declare, isBlankName_eq_false_iff.mpr hnamed, Declaration.operator_of_unknown hunknown]
      rfl
  | repeated hnamed hoperator hrepeated =>
      have hdeclared : spec.fields.contains declaration.field = true :=
        spec.fields.contains_eq_true_iff.mpr (hnames ▸ hrepeated)
      rw [declare, isBlankName_eq_false_iff.mpr hnamed,
        Declaration.operator_eq_ok_iff.mpr hoperator, hdeclared]
      rfl

theorem exists_declare (hnamed : trimBlanks declaration.field.toList ≠ [])
    {operator : Operator} (hoperator : declaration.ComesTo operator)
    (hfresh : declaration.field ∉ earlier.map Declaration.field) :
    ∃ after, spec.declare declaration = .ok after := by
  have hundeclared : spec.fields.contains declaration.field = false := by
    rw [Bool.eq_false_iff, Ne, spec.fields.contains_eq_true_iff, hnames]
    exact hfresh
  rw [declare, isBlankName_eq_false_iff.mpr hnamed,
    Declaration.operator_eq_ok_iff.mpr hoperator, hundeclared]
  exact ⟨_, rfl⟩

omit hnames

/-- Declarations without a fault make a specification. -/
theorem exists_ofDeclarations (h : WellDeclared declarations) :
    ∃ spec, ofDeclarations declarations = .ok spec := by
  -- from the end, for a declaration is checked against those before it
  induction declarations using List.reverseRecOn with
  | nil => exact ⟨empty, rfl⟩
  | append_singleton earlier declaration ih =>
      obtain ⟨hearlier, hnamed, ⟨operator, hoperator⟩, hfresh⟩ :=
        wellDeclared_append_singleton_iff.mp h
      obtain ⟨spec, hspec⟩ := ih hearlier
      rw [ofDeclarations_append_singleton, hspec]
      exact exists_declare (names_of_ofDeclarations hspec) hnamed hoperator hfresh

/-- The first fault is the one that is reported, whatever is declared behind it. -/
theorem ofDeclarations_of_firstFault {error : DefinitionError}
    (h : FirstFault declarations error) : ofDeclarations declarations = .error error := by
  obtain ⟨earlier, declaration, later, rfl, hearlier, hfault⟩ := h
  obtain ⟨spec, hspec⟩ := exists_ofDeclarations hearlier
  have hdeclare := declare_of_fault (names_of_ofDeclarations hspec) hfault
  rw [ofDeclarations] at hspec
  rw [ofDeclarations, List.foldlM_append, hspec]
  change (spec.declare declaration >>= fun spec => later.foldlM declare spec) = _
  rw [hdeclare]
  rfl

/-- Declarations are without a fault, or one of them has the first. -/
theorem wellDeclared_or_firstFault (declarations : List Declaration) :
    WellDeclared declarations ∨ ∃ error, FirstFault declarations error := by
  induction declarations using List.reverseRecOn with
  | nil => exact Or.inl .nil
  | append_singleton earlier declaration ih =>
      rcases ih with hearlier | ⟨error, earliest, faulty, later, rfl, hfirst, hfault⟩
      · rcases declaration.fault_or_comesTo earlier with ⟨error, hfault⟩ | hsound
        · exact Or.inr ⟨error, earlier, declaration, [], rfl, hearlier, hfault⟩
        · exact Or.inl (wellDeclared_append_singleton_iff.mpr ⟨hearlier, hsound⟩)
      · -- an earlier fault stays the first, whatever is declared behind it
        refine Or.inr ⟨error, earliest, faulty, later ++ [declaration], ?_, hfirst, hfault⟩
        rw [List.append_assoc, List.cons_append]

theorem exists_ofDeclarations_iff :
    (∃ spec, ofDeclarations declarations = .ok spec) ↔ WellDeclared declarations := by
  refine ⟨fun ⟨spec, hspec⟩ => ?_, exists_ofDeclarations⟩
  rcases wellDeclared_or_firstFault declarations with hwell | ⟨error, hfirst⟩
  · exact hwell
  · rw [ofDeclarations_of_firstFault hfirst] at hspec
    cases hspec

theorem ofDeclarations_eq_error_iff {error : DefinitionError} :
    ofDeclarations declarations = .error error ↔ FirstFault declarations error := by
  refine ⟨fun herror => ?_, ofDeclarations_of_firstFault⟩
  rcases wellDeclared_or_firstFault declarations with hwell | ⟨first, hfirst⟩
  · obtain ⟨spec, hspec⟩ := exists_ofDeclarations hwell
    rw [hspec] at herror
    cases herror
  · rw [ofDeclarations_of_firstFault hfirst] at herror
    cases herror
    exact hfirst

theorem lists_of_ofDeclarations (h : ofDeclarations declarations = .ok spec) :
    spec.Lists declarations where
  entries := by
    have houtcomes : List.Forall₂ (fun outcome outcome' => outcome = outcome')
        (declarations.map Declaration.outcome) spec.outcomes := by
      rw [List.forall₂_eq_eq_eq]
      exact (outcomes_of_ofDeclarations h).symm
    rw [outcomes, List.forall₂_map_left_iff, List.forall₂_map_right_iff] at houtcomes
    refine houtcomes.imp fun declaration entry houtcome => ?_
    obtain ⟨hfield, hoperator⟩ := Prod.mk.inj houtcome
    exact ⟨hfield.symm, Declaration.operator_eq_ok_iff.mp hoperator⟩
  once := spec.fields.nodup
  lookup _ _ := spec.fields.find?_eq_some_iff

end Spec

/-- What an outcome says about declarations: it is a success just when they are without a fault,
its specification lists them, and a failure is due to the first fault. -/
structure Judges {ε α : Type} (spec : α → Spec) (report : DefinitionError → ε)
    (outcome : Except ε α) (declarations : List Declaration) : Prop where
  succeeds : (∃ result, outcome = .ok result) ↔ WellDeclared declarations
  lists : ∀ result, outcome = .ok result → (spec result).Lists declarations
  fails : ∀ error, outcome = .error error ↔ ∃ fault, error = report fault ∧
    FirstFault declarations fault

theorem Spec.judges_ofDeclarations (declarations : List Declaration) :
    Judges id id (Spec.ofDeclarations declarations) declarations where
  succeeds := exists_ofDeclarations_iff
  lists _ h := lists_of_ofDeclarations h
  fails error := by
    rw [ofDeclarations_eq_error_iff]
    exact exists_eq_left'.symm

namespace Configuration

variable {file : ConfigurationFile}

theorem ofFile_of_named (hnamed : isBlankName file.table.name = false) :
    ofFile file =
      match Spec.ofDeclarations file.declarations with
      | .ok spec => .ok ⟨file.table, spec, file.rulePrefix.getD defaultRulePrefix⟩
      | .error error => .error (.invalidFields error) := by
  rw [ofFile, hnamed]
  rfl

/-- With a named table a configuration is made of the specification, or fails as that does. -/
theorem judges_ofFile (htable : trimBlanks file.table.name.toList ≠ []) :
    Judges spec ConfigurationError.invalidFields (ofFile file) file.declarations := by
  have hjudges := Spec.judges_ofDeclarations file.declarations
  rw [ofFile_of_named (isBlankName_eq_false_iff.mpr htable)]
  cases houtcome : Spec.ofDeclarations file.declarations with
  | ok made =>
      rw [houtcome] at hjudges
      refine ⟨⟨fun _ => hjudges.succeeds.mp ⟨made, rfl⟩, fun _ => ⟨_, rfl⟩⟩, ?_, ?_⟩
      · rintro _ ⟨⟩
        exact hjudges.lists made rfl
      · refine fun error => iff_of_false nofun ?_
        rintro ⟨fault, -, hfault⟩
        cases (hjudges.fails fault).mpr ⟨fault, rfl, hfault⟩
  | error fault =>
      rw [houtcome] at hjudges
      obtain ⟨_, rfl, hfault⟩ := (hjudges.fails fault).mp rfl
      refine ⟨iff_of_false nofun fun hwell => ?_, nofun, fun error => ?_⟩
      · obtain ⟨_, hmade⟩ := hjudges.succeeds.mpr hwell
        cases hmade
      · constructor
        · rintro ⟨⟩
          exact ⟨_, rfl, hfault⟩
        · rintro ⟨other, rfl, hother⟩
          cases (hjudges.fails other).mpr ⟨other, rfl, hother⟩
          rfl

end Configuration

/-- Declarations make a specification or nothing, and so do the fields of a file whose table has a
name. -/
theorem ofDeclarations_and_ofFile_judge (declarations : List Declaration) :
    Judges id id (Spec.ofDeclarations declarations) declarations ∧
      ∀ file : ConfigurationFile, trimBlanks file.table.name.toList ≠ [] →
        Judges Configuration.spec ConfigurationError.invalidFields (Configuration.ofFile file)
          file.declarations :=
  ⟨Spec.judges_ofDeclarations declarations, fun _ => Configuration.judges_ofFile⟩

/-- Two names that differ in case only, and an operator with blanks around it. -/
def memberFile : ConfigurationFile where
  table := ⟨none, "members", none⟩
  fields := [.detailed "status" (some " LIKE\t"), .detailed "Status" (some "="), .bare "age"]
  rulePrefix := none

/-- Of the two fields at fault the first repeats a name as well, and has no known operator. -/
def misnamedFields : List Declaration :=
  [.plain "name", .named "name" (some " regex "), .plain " "]

theorem ofDeclarations_and_ofFile_judge_members :
    Spec.ofDeclarations misnamedFields = .error (.unknownOperator "name" " regex ") ∧
      ∃ configuration, Configuration.ofFile memberFile = .ok configuration ∧
        configuration.spec.Lists memberFile.declarations := by
  obtain ⟨hdeclared, hfiles⟩ := ofDeclarations_and_ofFile_judge misnamedFields
  have hfirst : FirstFault misnamedFields (.unknownOperator "name" " regex ") := by
    refine ⟨[.plain "name"], _, [.plain " "], rfl, ⟨by decide, ?_, by decide⟩,
      .unknown (by decide) ?_⟩
    · exact List.forall_mem_singleton.mpr ⟨_, .given "name" .default⟩
    · rintro (_ | _) <;> decide
  have hmembers := hfiles memberFile (by decide)
  have hwell : WellDeclared memberFile.declarations := by
    refine ⟨by decide, ?_, by decide⟩
    exact List.forall_mem_cons.mpr ⟨⟨.like, .named (by decide)⟩,
      List.forall_mem_cons.mpr ⟨⟨.exactOrIn, .named (by decide)⟩,
        List.forall_mem_singleton.mpr ⟨_, .given "age" .default⟩⟩⟩
  obtain ⟨configuration, hmade⟩ := hmembers.succeeds.mpr hwell
  exact ⟨(hdeclared.fails _).mpr ⟨_, rfl, hfirst⟩, configuration, hmade,
    hmembers.lists configuration hmade⟩

end RequestFilter
