import AmbientDecls.Proofs.Types.Emission
import AmbientDecls.Proofs.Types.Reading
import AmbientDecls.Proofs.Types.Separated

/-! Quoted alternatives. Spaces are dropped and types are cut at separators before quotes are looked at, so an alternative in
quotes is shown as it is documented exactly if it has neither spaces nor separators in it. -/

namespace AmbientDecls

open Emit

namespace Emit

variable {α β : Type} (f : α → Emit β)

end Emit

namespace Slot

/-- A quoted text with array markers behind it. -/
def quoted (quote : Char) (content : List Char) (depth : Nat) : List Char :=
  quote :: content ++ [quote] ++ (brackets depth).toList

variable {quote : Char} {content : List Char} {depth : Nat}

end Slot

namespace Slot

end Slot

end AmbientDecls
