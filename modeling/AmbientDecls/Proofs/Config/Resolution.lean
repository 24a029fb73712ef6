import AmbientDecls.Config.Resolution
import AmbientDecls.Proofs.Build.Outcomes
import AmbientDecls.Proofs.Build.Places

/-! Which configuration counts. Candidates are passed over as long as nothing is there or nothing is in them; the first that
is not decides, whatever is in those behind it. -/

namespace AmbientDecls

section Values

variable {t u : FileTree} {p : Path} {d : Data}

end Values

namespace World

section Definitions

variable (w : World) (p : Path)

end Definitions

variable {v w : World} {p : Path}

end World

namespace Act

variable {w : World} {p : Path}

end Act

section Lengthy

variable {n : Nat}

end Lengthy

end AmbientDecls
