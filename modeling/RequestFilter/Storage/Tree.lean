import RequestFilter.Storage

/-!
# Files in memory

A tree of directories and files as a value, and the storage of a program that
runs on it. The root is always a directory, and it is its own parent.
-/

namespace RequestFilter

inductive Node where
  | directory
  | file (content : ByteArray)

/-- The names that lead from the root to a node. -/
abbrev Location := List String

/-- Directories and files by location. Different locations are different files: there are no links,
so that what is written under one name is not read under another. -/
structure FileTree where
  nodes : List (Location × Node)
  /-- Where paths begin that do not begin with a slash. -/
  workingDirectory : Location

namespace FileTree

/-- A tree with a working directory that is its root, and nothing else. -/
def empty : FileTree := ⟨[], []⟩

def node? (tree : FileTree) (location : Location) : Option Node :=
  if location = [] then some .directory else tree.nodes.lookup location

def put (tree : FileTree) (location : Location) (node : Node) : FileTree :=
  { tree with nodes := (location, node) :: tree.nodes.filter fun entry => entry.1 ≠ location }

theorem node?_put_self (tree : FileTree) {location : Location} (node : Node)
    (h : location ≠ []) : (tree.put location node).node? location = some node := by
  simp [node?, put, h]

/-- Leaving out the entries of one location does not change what another one has. -/
theorem lookup_filter_of_ne {location other : Location} (h : other ≠ location)
    (nodes : List (Location × Node)) :
    (nodes.filter fun entry => entry.1 ≠ location).lookup other = nodes.lookup other := by
  induction nodes with
  | nil => rfl
  | cons entry rest ih =>
      obtain ⟨place, node⟩ := entry
      by_cases hplace : place = location
      · have hother : (other == location) = false := beq_eq_false_iff_ne.mpr h
        simpa [hplace, List.lookup_cons, hother] using ih
      · cases hother : other == place with
        | true => simp [hplace, List.lookup_cons, hother]
        | false => simpa [hplace, List.lookup_cons, hother] using ih

theorem node?_put_of_ne (tree : FileTree) {location other : Location} (node : Node)
    (h : other ≠ location) : (tree.put location node).node? other = tree.node? other := by
  have hother : (other == location) = false := beq_eq_false_iff_ne.mpr h
  simp [node?, put, List.lookup_cons, hother, ← lookup_filter_of_ne h tree.nodes]

def remove (tree : FileTree) (location : Location) : FileTree :=
  { tree with nodes := tree.nodes.filter fun entry => entry.1 ≠ location }

/-- The sorted names of what stands right below a location. -/
def namesIn (tree : FileTree) (location : Location) : List String :=
  (tree.nodes.filterMap fun entry =>
    if entry.1.dropLast = location then entry.1.getLast? else none).mergeSort
      fun a b => decide (a ≤ b)

/-- Where one part of a path leads from a directory. -/
def follow (location : Location) (part : String) : Location :=
  if part = "" ∨ part = "." then location
  else if part = ".." then location.dropLast
  else location ++ [part]

/-- The greatest number of bytes of a name. -/
def maxNameBytes : Nat := 255

/-- The greatest number of bytes of a path. -/
def maxPathBytes : Nat := 4095

/-- Follow the parts of a path; all but the last must lead to directories. -/
def walk (tree : FileTree) (location : Location) : List String → Except StorageError Location
  | [] => .ok location
  | part :: rest =>
      match tree.node? location with
      | some .directory =>
          if maxNameBytes < part.utf8ByteSize then .error .nameTooLong
          else tree.walk (follow location part) rest
      | some (.file _) => .error .notADirectory
      | none => .error .notFound

def parts (path : String) : List String :=
  (pieces '/' path.toList).map String.ofList

def origin (tree : FileTree) (path : String) : Location :=
  match path.toList with
  | '/' :: _ => []
  | _ => tree.workingDirectory

/-- The location that a path leads to, whether or not anything stands there. -/
def locate (tree : FileTree) (path : String) : Except StorageError Location :=
  if maxPathBytes < path.utf8ByteSize then .error .nameTooLong
  else tree.walk (tree.origin path) (parts path)

def find (tree : FileTree) (path : String) : Except StorageError (Option Node) := do
  return tree.node? (← tree.locate path)

/-- Whether anything stands at a path; nothing does where a directory on the way is missing. -/
def isPresent (tree : FileTree) (path : String) : Except StorageError Bool :=
  match tree.find path with
  | .ok node => .ok node.isSome
  | .error .notFound => .ok false
  | .error error => .error error

def readText (tree : FileTree) (path : String) : Except StorageError String := do
  match ← tree.find path with
  | none => throw .notFound
  | some .directory => throw .isADirectory
  | some (.file content) =>
      match String.fromUTF8? content with
      | some text => pure text
      | none => throw .notText

/-- Write a file into a directory that exists. -/
def write (tree : FileTree) (path : String) (content : ByteArray) :
    Except StorageError FileTree := do
  let location ← tree.locate path
  match tree.node? location with
  | some .directory => throw .isADirectory
  | some (.file _) | none => pure (tree.put location (.file content))

def removeFile (tree : FileTree) (path : String) : Except StorageError FileTree := do
  let location ← tree.locate path
  match tree.node? location with
  | none => throw .notFound
  | some .directory => throw .isADirectory
  | some (.file _) => pure (tree.remove location)

/-- Whether a directory stands at a path. -/
def isDirectory (tree : FileTree) (path : String) : Bool :=
  match tree.find path with
  | .ok (some .directory) => true
  | _ => false

/-- Make a directory where nothing stands; slashes at the end of its path say nothing. -/
def makeDirectory (tree : FileTree) (path : String) : Except StorageError FileTree := do
  if maxPathBytes < path.utf8ByteSize then throw .nameTooLong
  let names := (parts path).filter (· ≠ "")
  match names.getLast? with
  | none => throw (if path = "" then .notFound else .alreadyExists)
  | some name =>
      let around ← tree.walk (tree.origin path) (names.dropLast ++ ["."])
      if name = "." ∨ name = ".." then throw .alreadyExists
      let location ← tree.walk around [name]
      match tree.node? location with
      | some _ => throw .alreadyExists
      | none => pure (tree.put location .directory)

end FileTree

/-- Programs on a tree of files; what is written before a failure stays. -/
abbrev InMemory := StateM FileTree

namespace InMemory

/-- An answer that leaves the tree as it is. -/
def ask {α : Type} (answer : FileTree → Except StorageError α) : ExceptT StorageError InMemory α :=
  ExceptT.mk do return answer (← get)

/-- A change of the tree, which stays as it is when the change is refused. -/
def change (step : FileTree → Except StorageError FileTree) : ExceptT StorageError InMemory Unit :=
  ExceptT.mk do
    match step (← get) with
    | .ok tree =>
        set tree
        return .ok ()
    | .error error => return .error error

instance : Storage InMemory where
  isPresent path := ask fun tree => tree.isPresent path
  readText path := ask fun tree => tree.readText path
  isDirectory path := return (← get).isDirectory path
  makeDirectory path := change fun tree => tree.makeDirectory path
  writeText path text := change fun tree => tree.write path text.toUTF8

end InMemory

end RequestFilter
