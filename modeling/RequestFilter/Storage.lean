import RequestFilter.Text.Pieces

/-!
# Storage

What a program needs of the place where its files stand. Paths have their parts
between slashes, and every operation may be refused.
-/

namespace RequestFilter

inductive StorageError where
  | notFound
  | alreadyExists
  | notADirectory
  | isADirectory
  | nameTooLong
  /-- The content is no text. -/
  | notText
  | system (description : String) (code : Nat)
deriving DecidableEq

namespace StorageError

/-- A description with the number that the system has for it. -/
def numbered (description : String) (code : Nat) : String :=
  description ++ " (os error " ++ toString code ++ ")"

def message : StorageError → String
  | notFound => numbered "No such file or directory" 2
  | alreadyExists => numbered "File exists" 17
  | notADirectory => numbered "Not a directory" 20
  | isADirectory => numbered "Is a directory" 21
  | nameTooLong => numbered "File name too long" 36
  | notText => "stream did not contain valid UTF-8"
  | system description code => numbered description code

end StorageError

class Storage (m : Type → Type) where
  isPresent : String → ExceptT StorageError m Bool
  isDirectory : String → m Bool
  readText : String → ExceptT StorageError m String
  /-- Make a directory where nothing stands, in one that there is. -/
  makeDirectory : String → ExceptT StorageError m Unit
  /-- Make a text the content of a file, in place of any that it had. -/
  writeText : String → String → ExceptT StorageError m Unit

/-- The path of a name in a directory. -/
def joinPath (directory name : String) : String :=
  match directory.toList.getLast? with
  | none | some '/' => directory ++ name
  | some _ => directory ++ "/" ++ name

/-- Whether a part of a path leads nowhere: nothing between two slashes, or a dot. -/
def isIdlePart (part : List Char) : Bool :=
  part = [] || part = ['.']

/-- The path of parts, of which the last comes first and an idle one at the end is left out. -/
def pathOfParts (backwards : List (List Char)) : String :=
  String.ofList (['/'].intercalate (backwards.dropWhile isIdlePart).reverse)

/-- The paths of the directories around the place that parts lead to, the last part first. -/
def pathsAround : List (List Char) → List String
  | [] => []
  | part :: outer =>
      if isIdlePart part then pathsAround outer
      else if pathOfParts outer = "" then []
      else pathOfParts outer :: pathsAround outer

/-- The paths of the directories around a path, from the inside out. -/
def enclosingPaths (path : String) : List String :=
  pathsAround (pieces '/' path.toList).reverse

namespace Storage

variable {m : Type → Type} [Monad m] [Storage m]

/-- Make a directory, unless there is one. -/
def ensureDirectory (path : String) : ExceptT StorageError m Unit :=
  ExceptT.tryCatch (makeDirectory path) fun error => do
    if ← ExceptT.lift (isDirectory path) then pure () else throw error

/-- Make a directory and, where they are missing, the given ones around it before. -/
def makeWithin (path : String) : List String → ExceptT StorageError m Unit
  | [] => ensureDirectory path
  | outer :: further =>
      ExceptT.tryCatch (makeDirectory path) fun error => do
        if error = .notFound then
          makeWithin outer further
          ensureDirectory path
        else if ← ExceptT.lift (isDirectory path) then pure ()
        else throw error

/--
Make a directory and those around it, as far as they are missing. Directories
that were made before a refusal stay.
-/
def makeDirectories (path : String) : ExceptT StorageError m Unit :=
  if path = "" then pure () else makeWithin path (enclosingPaths path)

end Storage

end RequestFilter
