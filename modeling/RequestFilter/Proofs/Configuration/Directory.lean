import RequestFilter.Configuration.Directory
import RequestFilter.Proofs.Configuration.RoundTrip
import RequestFilter.Proofs.Storage

/-!
# Configuration directories are read back

A configuration that is written into a directory is read from it again, whatever
the directory held before: the file takes the place of an earlier one, and the
schema beside it has another name.
-/

namespace RequestFilter

namespace InMemory

variable {tree after : FileTree} {path text : String}

/-- A text that is written is the content of the file that its path leads to. -/
theorem exists_of_runOn_writeText
    (h : Building.runOn (Storage.writeText (m := InMemory) path text) tree = (.ok (), after)) :
    ∃ location, tree.locate path = .ok location ∧ tree.node? location ≠ some .directory ∧
      after = tree.put location (.file text.toUTF8) := by
  change Building.runOn (change fun tree => tree.write path text.toUTF8) tree = _ at h
  rw [runOn_change] at h
  split at h
  next written hwrite =>
    cases h
    exact FileTree.write_eq_ok hwrite
  next => cases h

end InMemory

namespace ConfigurationFile

variable {tree after : FileTree} {directory : String} {file : ConfigurationFile}

/-- The text of the file is all that reading a directory comes to. -/
theorem runOn_readFrom_text {text : String}
    (hread : tree.readText (configurationPath directory) = .ok text) :
    Building.runOn (readFrom (m := InMemory) directory) tree =
      ((parse text).mapError (.ofFault (configurationPath directory)), tree) := by
  have htext : Building.runOn (Storage.readText (m := InMemory) (configurationPath directory))
      tree = (.ok text, tree) := by
    rw [← hread]
    exact InMemory.runOn_ask _ tree
  rw [readFrom, Building.runOn_bind, Building.runOn_adapt, htext]
  simp only [Except.mapError]
  cases parse text with
  | ok file => exact Building.runOn_pure file tree
  | error fault => rfl

theorem runOn_readFrom (hread : tree.readText (configurationPath directory) = .ok file.text) :
    Building.runOn (readFrom (m := InMemory) directory) tree = (.ok file, tree) := by
  rw [runOn_readFrom_text hread, file.parse_text]
  rfl

/-- Whatever a directory held, a configuration that was written into it is read from it. The schema,
which is written behind it, is another file of the directory, as there are no links. -/
theorem readFrom_of_writeTo
    (h : Building.runOn (file.writeTo (m := InMemory) directory) tree = (.ok (), after)) :
    Building.runOn (readFrom (m := InMemory) directory) after = (.ok file, after) := by
  obtain ⟨_, made, _, hwritten⟩ := Building.exists_of_runOn_bind_eq_ok h
  obtain ⟨_, middle, hfile, hschema⟩ := Building.exists_of_runOn_bind_eq_ok hwritten
  obtain ⟨location, hlocate, hplace, rfl⟩ := InMemory.exists_of_runOn_writeText hfile
  obtain ⟨other, hother, hotherPlace, rfl⟩ := InMemory.exists_of_runOn_writeText hschema
  have hroot : location ≠ [] := by
    rintro rfl
    exact hplace rfl
  have hapart : location ≠ other := by
    rintro rfl
    have hname := FileTree.getLast?_of_locate (by decide) (by decide) hlocate
    have hotherName := FileTree.getLast?_of_locate (by decide) (by decide) hother
    rw [hname] at hotherName
    exact absurd hotherName (by decide)
  have hfound := FileTree.locate_put (.file (schemaText ++ "\n").toUTF8) hotherPlace
    (FileTree.locate_put (.file file.text.toUTF8) hplace hlocate)
  refine runOn_readFrom (FileTree.readText_eq_ok hfound ?_)
  rw [FileTree.node?_put_of_ne _ _ hapart, FileTree.node?_put_self _ _ hroot]

/-- Empty settings, escaped characters and characters beyond ASCII, and a field without an operator
that is no bare name. -/
def unusualFile : ConfigurationFile :=
  ⟨⟨some "", "\"us\\ers\"\n", some "\x01é"⟩,
    [.bare "", .detailed "name" none, .detailed "größe" (some "=")], some ""⟩

/-- The directory has the starter configuration, and a file beside it that is no text. -/
def startedTree : FileTree :=
  ((FileTree.empty.put ["app"] .directory).put ["app", configurationFileName]
    (.file starter.text.toUTF8)).put ["app", "notes"] (.file ⟨#[0xFF]⟩)

theorem readFrom_of_writeTo_unusual :
    ∃ after,
      Building.runOn (unusualFile.writeTo (m := InMemory) "/app/") startedTree = (.ok (), after) ∧
      Building.runOn (readFrom (m := InMemory) "/app/") after = (.ok unusualFile, after) := by
  have hwrite : (Building.runOn (unusualFile.writeTo (m := InMemory) "/app/")
      startedTree).1.toOption = some () := by
    decide +kernel
  cases hrun : Building.runOn (unusualFile.writeTo (m := InMemory) "/app/") startedTree with
  | mk answer after =>
      rw [hrun] at hwrite
      cases answer with
      | error error => cases hwrite
      | ok => exact ⟨after, rfl, readFrom_of_writeTo hrun⟩

end ConfigurationFile

end RequestFilter
