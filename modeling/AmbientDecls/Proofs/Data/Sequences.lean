import Mathlib.Data.List.Forall2

/-! Sequences of steps that may fail or leave something behind, one for each element of a list. -/

namespace AmbientDecls

theorem mapM_congr {m : Type → Type} [Monad m] [LawfulMonad m] {α β : Type} {f g : α → m β} {l : List α}
    (h : ∀ a ∈ l, f a = g a) : l.mapM f = l.mapM g := by
  induction l with
  | nil => rw [List.mapM_nil, List.mapM_nil]
  | cons a l ih =>
    obtain ⟨ha, hl⟩ := List.forall_mem_cons.mp h
    rw [List.mapM_cons, List.mapM_cons, ha, ih hl]

variable {α β ε : Type} {g : α → Except ε β} {l : List α}

end AmbientDecls
