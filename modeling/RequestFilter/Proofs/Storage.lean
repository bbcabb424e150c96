import RequestFilter.Proofs.Building
import RequestFilter.Proofs.Text.Pieces
import RequestFilter.Storage.Tree

/-!
# Files that were written

A file that was written is read again as it was written, also after files of
other names were written beside it. Paths go through directories, and a file is
never written in the place of one.
-/

namespace RequestFilter

/-- The pieces of a list behind a separator are the last ones. -/
theorem exists_pieces_append_eq {α : Type} [DecidableEq α] {separator : α} {piece : List α}
    (h : separator ∉ piece) (as : List α) :
    ∃ first others, pieces separator (as ++ separator :: piece) = first :: (others ++ [piece]) := by
  induction as with
  | nil => exact ⟨[], [], by simp [pieces, pieces_of_not_mem h]⟩
  | cons a rest ih =>
      obtain ⟨first, others, hrest⟩ := ih
      rw [List.cons_append, pieces, hrest]
      split
      · exact ⟨[], first :: others, rfl⟩
      · exact ⟨a :: first, others, rfl⟩

namespace FileTree

variable {tree after : FileTree} {location target : Location} {path name : String}

/-- The path of a name in a directory ends with that name. -/
theorem exists_parts_joinPath_eq (directory : String) (h : '/' ∉ name.toList) :
    ∃ outer, parts (joinPath directory name) = outer ++ [name] := by
  have hparts : ∀ as : List Char, ∃ outer,
      (pieces '/' (as ++ '/' :: name.toList)).map String.ofList = outer ++ [name] := by
    intro as
    obtain ⟨first, others, hpieces⟩ := exists_pieces_append_eq h as
    exact ⟨(first :: others).map String.ofList, by rw [hpieces]; simp⟩
  unfold parts joinPath
  split
  next hempty =>
    rw [List.getLast?_eq_none_iff] at hempty
    rw [String.toList_append, hempty, List.nil_append, pieces_of_not_mem h]
    exact ⟨[], by simp⟩
  next hslash =>
    obtain ⟨as, has⟩ := List.getLast?_eq_some_iff.mp hslash
    rw [String.toList_append, has, List.append_assoc]
    exact hparts as
  next =>
    rw [String.toList_append, String.toList_append, List.append_assoc]
    exact hparts directory.toList

/-- Every part of a path but the last is followed from a directory. -/
theorem walk_cons_eq_ok_iff {part : String} {rest : List String} :
    tree.walk location (part :: rest) = .ok target ↔
      tree.node? location = some .directory ∧ part.utf8ByteSize ≤ maxNameBytes ∧
        tree.walk (follow location part) rest = .ok target := by
  rw [walk]
  cases tree.node? location with
  | none => simp
  | some node =>
      cases node with
      | file content => simp
      | directory =>
          by_cases hlong : maxNameBytes < part.utf8ByteSize
          · simp [hlong, Nat.not_le.mpr hlong]
          · simp [hlong, Nat.not_lt.mp hlong]

/-- A path that ends with a name leads to that name in a directory. -/
theorem getLast?_of_walk {outer : List String} (hname : name ≠ "" ∧ name ≠ "." ∧ name ≠ "..")
    (h : tree.walk location (outer ++ [name]) = .ok target) : target.getLast? = some name := by
  induction outer generalizing location with
  | nil =>
      obtain ⟨_, _, hfollow⟩ := walk_cons_eq_ok_iff.mp h
      rw [walk, follow, if_neg (by simp [hname]), if_neg hname.2.2] at hfollow
      cases hfollow
      exact List.getLast?_concat
  | cons part rest ih => exact ih (walk_cons_eq_ok_iff.mp h).2.2

/-- What stands in the place of no directory is on the way to nothing else. -/
theorem walk_put (node : Node) (hplace : tree.node? location ≠ some .directory)
    {start : Location} {names : List String} (h : tree.walk start names = .ok target) :
    (tree.put location node).walk start names = .ok target := by
  induction names generalizing start with
  | nil => exact h
  | cons part rest ih =>
      obtain ⟨hdirectory, hshort, hfollow⟩ := walk_cons_eq_ok_iff.mp h
      have hne : start ≠ location := by
        rintro rfl
        exact hplace hdirectory
      refine walk_cons_eq_ok_iff.mpr ⟨?_, hshort, ih hfollow⟩
      rw [node?_put_of_ne tree node hne, hdirectory]

theorem getLast?_of_locate {directory : String} (hslash : '/' ∉ name.toList)
    (hname : name ≠ "" ∧ name ≠ "." ∧ name ≠ "..")
    (h : tree.locate (joinPath directory name) = .ok target) : target.getLast? = some name := by
  obtain ⟨outer, hparts⟩ := exists_parts_joinPath_eq directory hslash
  unfold locate at h
  split at h
  · cases h
  · exact getLast?_of_walk hname (hparts ▸ h)

theorem locate_put (node : Node) (hplace : tree.node? location ≠ some .directory)
    (h : tree.locate path = .ok target) : (tree.put location node).locate path = .ok target := by
  unfold locate at h ⊢
  split at h
  · cases h
  next hshort =>
    rw [if_neg hshort]
    exact walk_put node hplace h

theorem write_eq_ok {content : ByteArray} (h : tree.write path content = .ok after) :
    ∃ location, tree.locate path = .ok location ∧ tree.node? location ≠ some .directory ∧
      after = tree.put location (.file content) := by
  rw [write] at h
  cases hlocate : tree.locate path with
  | error error =>
      rw [hlocate] at h
      cases h
  | ok location =>
      refine ⟨location, rfl, ?_⟩
      simp only [hlocate, bind, Except.bind] at h
      split at h
      · cases h
      next hfile =>
        cases h
        simp [hfile]
      next hnone =>
        cases h
        simp [hnone]

theorem readText_eq_ok {text : String} (hlocate : tree.locate path = .ok location)
    (hnode : tree.node? location = some (.file text.toUTF8)) :
    tree.readText path = .ok text := by
  have htext : String.fromUTF8? text.toUTF8 = some text := by
    rw [String.toUTF8_eq_toByteArray, String.fromUTF8?, dif_pos text.isValidUTF8]
    rfl
  have hfind : tree.find path = .ok (some (.file text.toUTF8)) := by
    rw [find, hlocate, ← hnode]
    rfl
  simp only [readText, hfind, bind, Except.bind, htext]
  rfl

end FileTree

namespace InMemory

variable {tree after : FileTree}

theorem runOn_ask {α : Type} (answer : FileTree → Except StorageError α) (tree : FileTree) :
    Building.runOn (ask answer) tree = (answer tree, tree) := rfl

/-- A change that is refused leaves the tree as it is. -/
theorem runOn_change (step : FileTree → Except StorageError FileTree) (tree : FileTree) :
    Building.runOn (change step) tree =
      match step tree with
      | .ok after => (.ok (), after)
      | .error error => (.error error, tree) := by
  unfold Building.runOn change
  cases hstep : step tree <;> simp [hstep]

end InMemory

end RequestFilter
