import AmbientDecls.Proofs.Docs.Modules
import AmbientDecls.Proofs.Emit.Builtins
import AmbientDecls.Proofs.Emit.History

/-! The layout of a file. After the head and the aliases come the modules by name, and in each the declarations of its
classes in load order. A class is declared under the name by which others refer to it. -/

namespace AmbientDecls

open Emit

namespace Emitter

variable (e : Emitter)

variable {e}

end Emitter

namespace Registry

end Registry
end AmbientDecls
