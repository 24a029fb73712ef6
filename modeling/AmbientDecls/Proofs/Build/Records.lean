import AmbientDecls.Proofs.Build.Loading
import AmbientDecls.Proofs.Data.Sequences
import AmbientDecls.Proofs.Files.Listing

/-! Loading the records of a directory. Every file whose name begins with the prefix is read, in ascending order of
the names; all of them hold a class record, or the first that does not ends the run. Nothing else in the directory
counts. -/

namespace AmbientDecls

namespace FileTree

variable {t u : FileTree} {p : Path}

end FileTree

namespace Act

variable {w w' : World} {directory : Path} {config : RegistryConfig}

end Act

section Host

variable {entries : List (String × Node)} {n : String}

end Host

section Keyed

variable {fuel : Nat} {s rest : List Char}

end Keyed

end AmbientDecls
