import AmbientDecls.Proofs.Config.Resolution

/-! What a configuration file may hold. A mapping with text keys is read as a configuration, or refused with an error that
names the file, as is a text that is no document; what else may be in a file leads to other errors. -/

namespace AmbientDecls

variable {env : Environment} {d : Data} {path : String}

namespace Environment

end Environment

namespace Config

end Config

section Places

variable {w : World} {p : Path}

end Places

end AmbientDecls
