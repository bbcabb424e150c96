import RequestFilter.Program

/-!
# The command line program

The files of the operating system as a storage, and the program run on them.
-/

namespace RequestFilter

namespace StorageError

/-- The number of a system error, which some operations report with its sign reversed. -/
def systemCode (code : UInt32) : Nat :=
  if code.toNat < 2147483648 then code.toNat else 4294967296 - code.toNat

/-- The error with a number; a number without an error of its own keeps its description. -/
def ofCode (code : UInt32) (description : String) : StorageError :=
  match systemCode code with
  | 2 => .notFound
  | 17 => .alreadyExists
  | 20 => .notADirectory
  | 21 => .isADirectory
  | 36 => .nameTooLong
  | number => .system description number

def ofSystem : IO.Error → StorageError
  | .noFileOrDirectory _ code _ => ofCode code "No such file or directory"
  | .alreadyExists _ code _ => ofCode code "File exists"
  | .inappropriateType _ code _ => ofCode code "Not a directory"
  | .permissionDenied _ code _ => ofCode code "Permission denied"
  | .invalidArgument _ code details => ofCode code details
  | error => .system error.toString 0

def attempt {α : Type} (action : IO α) : ExceptT StorageError IO α :=
  ExceptT.mk do
    match ← action.toBaseIO with
    | .ok value => return .ok value
    | .error error => return .error (ofSystem error)

end StorageError

def isPresentInSystem (path : String) : ExceptT StorageError IO Bool :=
  ExceptT.mk do
    match ← (StorageError.attempt (IO.FS.Handle.mk path .read)).run with
    | .ok _ => return .ok true
    | .error .notFound => return .ok false
    | .error error => return .error error

/-- Whether a path leads to a directory: then its own place in it is taken. -/
def isDirectoryInSystem (path : String) : IO Bool := do
  match ← (StorageError.attempt (IO.FS.createDir (path ++ "/."))).run with
  | .error .alreadyExists => return true
  | _ => return false

instance : Storage IO where
  isPresent := isPresentInSystem
  readText path := do
    match String.fromUTF8? (← StorageError.attempt (IO.FS.readBinFile path)) with
    | some text => pure text
    | none => throw .notText
  isDirectory := isDirectoryInSystem
  makeDirectory path := StorageError.attempt (IO.FS.createDir path)
  writeText path text := StorageError.attempt (IO.FS.writeFile path text)

end RequestFilter

def main (arguments : List String) : IO UInt32 := do
  let environment ← IO.getEnv RequestFilter.directoryVariable
  let outcome : RequestFilter.Outcome ← RequestFilter.Program.run environment arguments
  IO.eprint outcome.diagnostics
  IO.print outcome.output
  return outcome.code.toUInt32
