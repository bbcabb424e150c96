import RequestFilter.Configuration.Read
import RequestFilter.Configuration.Schema
import RequestFilter.Storage

/-!
# Configuration directories

A configuration stands in a directory, in a file of a fixed name, with the
schema of its format beside it.
-/

namespace RequestFilter

inductive ReadingError where
  | unreadable (path : String) (error : StorageError)
  | malformed (path : String) (error : Json.Error)
  | unsupportedVersion (path found : String)
deriving DecidableEq

namespace ReadingError

def message : ReadingError → String
  | unreadable path error => "I/O error: " ++ path ++ ": " ++ error.message
  | malformed path error =>
      "parse error on " ++ path ++ ":" ++ toString error.place.line ++ ":" ++
        toString error.place.column ++ ": " ++ error.message
  | unsupportedVersion path found =>
      "unsupported configuration version " ++ found ++ " in " ++ path ++
        ", expected \"" ++ configurationVersion ++ "\""

def ofFault (path : String) : ConfigurationFault → ReadingError
  | .malformed error => malformed path error
  | .unsupportedVersion found => unsupportedVersion path found

end ReadingError

inductive StartError where
  /-- Whether there is a configuration already cannot be told. -/
  | unknown (error : StorageError)
  | alreadyPresent (path : String)
  | writing (error : StorageError)
deriving DecidableEq

namespace StartError

def message : StartError → String
  | unknown error => error.message
  | alreadyPresent path => "a configuration already exists at " ++ path
  | writing error => "I/O error: " ++ error.message

def cause? : StartError → Option String
  | writing error => some error.message
  | unknown _ | alreadyPresent _ => none

end StartError

def configurationPath (directory : String) : String :=
  joinPath directory configurationFileName

def schemaPath (directory : String) : String :=
  joinPath directory schemaFileName

namespace ConfigurationFile

variable {m : Type → Type} [Monad m] [Storage m]

def readFrom (directory : String) : ExceptT ReadingError m ConfigurationFile := do
  let path := configurationPath directory
  let text ← ExceptT.adapt (ReadingError.unreadable path) (Storage.readText path)
  match parse text with
  | .ok file => pure file
  | .error fault => throw (.ofFault path fault)

/-- Write a configuration and its schema into a directory, which is made if it is missing. -/
def writeTo (file : ConfigurationFile) (directory : String) : ExceptT StorageError m Unit := do
  Storage.makeDirectories directory
  Storage.writeText (configurationPath directory) file.text
  Storage.writeText (schemaPath directory) (schemaText ++ "\n")

/-- Write the starter configuration, unless the directory has a configuration. -/
def startIn (directory : String) : ExceptT StartError m Unit := do
  let path := configurationPath directory
  if ← ExceptT.adapt StartError.unknown (Storage.isPresent path) then
    throw (.alreadyPresent path)
  ExceptT.adapt StartError.writing (starter.writeTo directory)

end ConfigurationFile

end RequestFilter
