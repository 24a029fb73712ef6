import Mathlib.Data.List.Nodup
import Mathlib.Data.List.Perm.Subperm
import Mathlib.Logic.Relation

/-! Relations without cycles whose sources are among finitely many things. A descent along one visits nothing twice, so
it is over after as many steps as there are things. -/

namespace AmbientDecls

open Relation

variable {α : Type} {r : α → α → Prop} {l : List α} {bound : Nat} {P : Nat → α → Prop}

/-- The things met on the way to `a` are different from one another and from all that comes after `a`. -/
theorem descent_from (hmem : ∀ {b a}, r b a → b ∈ l) (hbound : l.length ≤ bound)
    (hacyclic : ∀ b, ¬ TransGen r b b) (hstep : ∀ n a, (∀ b, r b a → P n b) → P (n + 1) a)
    (n : Nat) (path : List α) (a : α) (hnodup : (a :: path).Nodup) (hsub : a :: path ⊆ l)
    (hpath : ∀ x ∈ path, TransGen r a x) (hlength : n + path.length = bound) : P n a := by
  induction n generalizing path a with
  | zero =>
    -- with no step left the way would already be longer than the list
    have hle := (hnodup.subperm hsub).length_le
    rw [List.length_cons] at hle
    omega
  | succ n ih =>
    refine hstep n a fun b hb => ih (a :: path) b ?_ ?_ ?_ ?_
    · refine List.nodup_cons.mpr ⟨fun hmemb => ?_, hnodup⟩
      rcases List.mem_cons.mp hmemb with rfl | hmemb
      · exact hacyclic b (TransGen.single hb)
      · exact hacyclic b (TransGen.head hb (hpath b hmemb))
    · exact List.cons_subset.mpr ⟨hmem hb, hsub⟩
    · intro x hx
      rcases List.mem_cons.mp hx with rfl | hx
      · exact TransGen.single hb
      · exact TransGen.head hb (hpath x hx)
    · rw [List.length_cons]
      omega

/-- What one step passes on holds with `bound` steps left wherever a step can lead. -/
theorem descent (hmem : ∀ {b a}, r b a → b ∈ l) (hbound : l.length ≤ bound)
    (hacyclic : ∀ b, ¬ TransGen r b b) (hstep : ∀ n a, (∀ b, r b a → P n b) → P (n + 1) a)
    {a b : α} (h : r b a) : P bound b :=
  descent_from hmem hbound hacyclic hstep bound [] b (List.nodup_singleton b)
    (List.cons_subset.mpr ⟨hmem h, List.nil_subset l⟩) (fun _ hx => absurd hx List.not_mem_nil) rfl

theorem wellFounded_of_acyclic (hmem : ∀ {b a}, r b a → b ∈ l)
    (hacyclic : ∀ b, ¬ TransGen r b b) : WellFounded r := by
  refine ⟨fun a => Acc.intro a fun b hb => ?_⟩
  have hstep : ∀ (_ : Nat) a, (∀ b, r b a → Acc r b) → Acc r a := fun _ a h => Acc.intro a h
  exact descent (P := fun _ a => Acc r a) hmem (Nat.le_refl _) hacyclic hstep hb

end AmbientDecls
