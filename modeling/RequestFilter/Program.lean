import RequestFilter.Bag.QueryString
import RequestFilter.CommandLine
import RequestFilter.Compilation
import RequestFilter.Configuration.Directory

/-!
# The program

What a command does with its files, what it prints and how it ends.
-/

namespace RequestFilter

inductive ProgramError where
  | request (error : BagError)
  | reading (error : ReadingError)
  | compilation (error : CompilationError)
  | start (error : StartError)

namespace ProgramError

def message : ProgramError → String
  | request error => error.message
  | reading error => error.message
  | compilation error => error.message
  | start error => error.message

def cause? : ProgramError → Option String
  | request _ | reading _ => none
  | compilation error => error.cause?
  | start error => error.cause?

/-- The message, followed by that of the error behind it. -/
def report (error : ProgramError) : String :=
  match error.cause? with
  | some cause => error.message ++ ": " ++ cause
  | none => error.message

end ProgramError

namespace Request

/-- The bag of a request; without parameters it is empty. -/
def bag : Request → Except BagError Bag
  | .none => .ok ∅
  | .document text => Bag.parse text
  | .queryString text => .ok (Bag.ofQueryString text)

end Request

/-- What a run leaves behind: its output, its diagnostics and its exit code. -/
structure Outcome where
  output : String
  diagnostics : String
  code : UInt8
deriving DecidableEq

namespace Outcome

def success (output : String) : Outcome := ⟨output, "", 0⟩

def failure (error : ProgramError) : Outcome := ⟨"", error.report ++ "\n", 1⟩

def usage (error : UsageError) : Outcome := ⟨"", "error: " ++ error.message ++ "\n", 2⟩

/-- A compiled statement, with its warnings as diagnostics. -/
def compiled (result : Compiled) (pretty : Bool) : Outcome where
  output := result.render pretty
  diagnostics := String.join (result.warnings.map fun warning =>
    "warning: " ++ warning.message ++ "\n")
  code := 0

end Outcome

namespace Program

variable {m : Type → Type} [Monad m] [Storage m]

def compile (directory : String) (bag : Bag) : ExceptT ProgramError m Compiled := do
  let file ← ExceptT.adapt ProgramError.reading (ConfigurationFile.readFrom directory)
  match file.compile bag with
  | .ok result => pure result
  | .error error => throw (.compilation error)

/-- Do what a command says; the parameters of a request are read before any file. -/
def execute (directory : String) : Command → ExceptT ProgramError m Outcome
  | .start => do
      ExceptT.adapt ProgramError.start (ConfigurationFile.startIn directory)
      return .success ""
  | .printSchema => pure (.success (schemaText ++ "\n"))
  | .compile request pretty => do
      match request.bag with
      | .error error => throw (.request error)
      | .ok bag => return .compiled (← compile directory bag) pretty

def run (environment : Option String) (arguments : List String) : m Outcome := do
  match CommandLine.parse environment arguments with
  | .error error => return .usage error
  | .ok .version => return .success (versionText ++ "\n")
  | .ok (.run directory command) =>
      match ← (execute directory command).run with
      | .ok outcome => return outcome
      | .error error => return .failure error

end Program

end RequestFilter
