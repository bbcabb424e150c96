import RequestFilter.Proofs.Configuration.Directory
import RequestFilter.Proofs.Configuration.Settings

/-!
# The version decides, and names do the rest

What a configuration file comes to is told by the names of its members. Its version
decides first. For a file of the known version, neither the order of the members nor
any that the format does not know change anything, at the top, in a table or in a
field.
-/

namespace RequestFilter

open Json (IsTextOf Written maxLevels)

namespace ConfigurationFile

open Json.Written

section Invariance

variable {α : Type} {meaning : Written → Option α} {known : List String}
  {related : String → Written → Written → Prop} {members others : List (String × Written)}

end Invariance

section Settings

variable {members others : List (String × Written)}

end Settings

/-- What reading a directory comes to. -/
def outcome (directory : String) (tree : FileTree) : Except ReadingError ConfigurationFile :=
  (Building.runOn (readFrom (m := InMemory) directory) tree).1

section Outcome

variable {members others : List (String × Written)} {text text' directory : String}
  {tree tree' : FileTree} {found : Json}

end Outcome

end ConfigurationFile

end RequestFilter
