import RequestFilter.Configuration
import RequestFilter.Sql.Layout
import RequestFilter.Sql.Render

/-!
# Compilation

The parameters of a request become a statement over the configured table. What
is declared to need a custom rule cannot be compiled, because a configuration
holds no rules.
-/

namespace RequestFilter

/-- A select that a request has narrowed, and what was reported on the way. -/
structure Compiled where
  select : Sql.Select
  warnings : List Warning

namespace Compiled

def statement (compiled : Compiled) : Sql.Statement :=
  compiled.select.statement

/-- The statement, over lines if wanted, followed by its numbered parameters. -/
def render (compiled : Compiled) (pretty : Bool) : String :=
  (if pretty then compiled.statement.layout else compiled.statement).listing

end Compiled

inductive CompilationError where
  | configuration (error : ConfigurationError)
  | customFields (fields : List String)
  | definition (error : DefinitionError)
  | target (error : Sql.TargetError)
deriving DecidableEq

namespace CompilationError

def message : CompilationError → String
  | configuration error => error.message
  | customFields fields =>
      "cannot compile fields declared with the 'custom' operator (" ++ ", ".intercalate fields ++
        "): their rules must be registered in code"
  | definition error => error.message
  | target error => error.message

def cause? : CompilationError → Option String
  | configuration (.invalidFields error) => some error.message
  | _ => none

end CompilationError

def Configuration.compile (configuration : Configuration) (bag : Bag) :
    Except CompilationError Compiled :=
  match configuration.spec.customOnlyFields with
  | [] =>
      match (configuration.definitionBuilder Sql.Select Sql.TargetError).build with
      | .error error => .error (.definition error)
      | .ok definition =>
          match (definition.apply bag).runOn configuration.baseSelect with
          | (.ok report, select) => .ok ⟨select, report.warnings⟩
          | (.error error, _) => .error (.target error)
  | fields => .error (.customFields fields)

def ConfigurationFile.compile (file : ConfigurationFile) (bag : Bag) :
    Except CompilationError Compiled :=
  match Configuration.ofFile file with
  | .ok configuration => configuration.compile bag
  | .error error => .error (.configuration error)

end RequestFilter
