import AmbientDecls.Types.Diagnostic

/-! Running an emission step by step: what each step yields, and the state it leaves to the next. -/

namespace AmbientDecls.Emit

variable {α β : Type}

theorem run_pure (a : α) (s : EmitState) : (pure a : Emit α).run s = (a, s) := rfl

theorem run_bind (x : Emit α) (f : α → Emit β) (s : EmitState) :
    (x >>= f).run s = (f (x.run s).1).run (x.run s).2 := rfl

end AmbientDecls.Emit
