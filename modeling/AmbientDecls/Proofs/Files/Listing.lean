import AmbientDecls.Proofs.Data.Ascending
import AmbientDecls.Proofs.Files.Growth

/-! What stands in a directory. Its names are listed once each and in ascending order, and what is read under one of
them depends on nothing but what stands there. -/

namespace AmbientDecls.FileTree

variable {t u : FileTree} {p : Path}

section Listing

variable {d : Place} {n : String}

/-- The names of what stands in a directory, as they are listed. -/
def children (t : FileTree) (d : Place) : List String :=
  (t.nodes.map (·.1)).filterMap fun place => if place.dropLast = d ∧ place ≠ [] then place.getLast? else none

/-- The names in a directory that begin in a given way, in ascending order. -/
def wanted (t : FileTree) (d : Place) (start : String) : List String :=
  ((t.children d).mergeSort fun a b => !(b < a)).filter fun n => start.toList.isPrefixOf n.toList

end Listing

end AmbientDecls.FileTree
