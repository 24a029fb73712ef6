import AmbientDecls.Proofs.Types.Alternative
import AmbientDecls.Proofs.Types.Emission
import Mathlib.Data.List.Forall2

/-! How a scope shows built-in types. Emission may assign aliases as it goes on, but it never shows a built-in type in
another way than before. -/

namespace AmbientDecls

/-- The name of a built-in type in a scope: a hidden one has an alias. -/
def Scope.shown (scope : Scope) (name : String) : String :=
  if scope.shadowed.contains name then
    (scope.aliases.lookup name).getD (scope.aliasPrefix ++ name)
  else name

def shownIn : Option Scope → String → String
  | none, name => name
  | some scope, name => scope.shown name

namespace Scope

theorem resolve_fst (scope : Scope) {target : String}
    (h : target.toList.getLast? ≠ some '\n') :
    (scope.resolve target).1 = scope.shown (Slot.ofPiece target.toList).base ++
      Slot.brackets (Slot.ofPiece target.toList).depth := by
  have hslot := Slot.ofText_eq h
  have hbase := congrArg Slot.base hslot
  have hdepth := congrArg Slot.depth hslot
  have hwhole := Slot.ofPiece_append target.toList
  rw [String.ofList_toList] at hwhole
  rw [← hbase, ← hdepth] at hwhole ⊢
  unfold resolve shown
  simp only [Slot.ofText, String.length_toList] at hwhole ⊢
  generalize String.ofList
    (target.toList.take (target.length - 2 * Slot.markers target.toList)) = name at hwhole ⊢
  by_cases hshadowed : scope.shadowed.contains name = true
  · rw [if_pos hshadowed, if_pos hshadowed]
    cases scope.aliases.lookup name with
    | some a => rfl
    | none => rfl
  · rw [if_neg hshadowed, if_neg hshadowed]
    exact hwhole.symm

theorem shown_resolve (scope : Scope) (target name : String) :
    (scope.resolve target).2.shown name = scope.shown name := by
  unfold resolve
  simp only
  generalize String.ofList
    (target.toList.take (target.length - 2 * Slot.markers target.toList)) = base
  by_cases hshadowed : scope.shadowed.contains base = true
  · rw [if_pos hshadowed]
    cases halias : scope.aliases.lookup base with
    | some a => rfl
    | none =>
      -- the new alias is the one that was shown before it was assigned
      unfold shown
      simp only [List.lookup_append]
      by_cases hname : name = base
      · rw [hname, halias]
        simp
      · simp [List.lookup_cons, beq_false_of_ne hname]
  · rw [if_neg hshadowed]

end Scope

namespace Emit

variable {α β : Type} {shown : String → String} {P : α → Prop} {Q : β → Prop}

/-- An emission that yields what is asked for and shows built-in types in the end as it did before. -/
def Yields (shown : String → String) (act : Emit α) (P : α → Prop) : Prop :=
  ∀ s : EmitState, shownIn s.scope = shown →
    shownIn (act.run s).2.scope = shown ∧ P (act.run s).1

theorem yields_pure {a : α} (h : P a) : Yields shown (pure a) P := fun _ hs => ⟨hs, h⟩

theorem Yields.imp {act : Emit α} {P Q : α → Prop} (h : Yields shown act P)
    (hPQ : ∀ a, P a → Q a) : Yields shown act Q := by
  intro s hs
  obtain ⟨hnext, hP⟩ := h s hs
  exact ⟨hnext, hPQ _ hP⟩

theorem Yields.bind {act : Emit α} {f : α → Emit β} (h : Yields shown act P)
    (hf : ∀ a, P a → Yields shown (f a) Q) : Yields shown (act >>= f) Q := by
  intro s hs
  obtain ⟨hnext, hP⟩ := h s hs
  rw [run_bind]
  exact hf _ hP _ hnext

theorem yields_mapM {R : α → β → Prop} {f : α → Emit β} {l : List α}
    (h : ∀ a ∈ l, Yields shown (f a) (R a)) : Yields shown (l.mapM f) (List.Forall₂ R l) := by
  induction l with
  | nil => exact yields_pure .nil
  | cons a l ih =>
    rw [List.mapM_cons]
    refine (h a (List.mem_cons_self ..)).bind fun b hb => ?_
    refine (ih fun x hx => h x (List.mem_cons_of_mem a hx)).bind fun bs hbs => ?_
    exact yields_pure (.cons hb hbs)

theorem yields_warn (kind : DiagnosticKind) (subject message : String) :
    Yields shown (warn kind subject message) fun _ => True := fun _ hs => ⟨hs, trivial⟩

theorem yields_builtin {target : String} (h : target.toList.getLast? ≠ some '\n') :
    Yields shown (builtin target) fun text =>
      text = shown (Slot.ofPiece target.toList).base ++
        Slot.brackets (Slot.ofPiece target.toList).depth := by
  rintro ⟨scope, diagnostics⟩ hs
  cases scope with
  | none =>
    obtain rfl := hs
    refine ⟨rfl, ?_⟩
    change target = (Slot.ofPiece target.toList).base ++ _
    rw [Slot.ofPiece_append, String.ofList_toList]
  | some scope =>
    obtain rfl := hs
    refine ⟨?_, scope.resolve_fst h⟩
    funext name
    exact scope.shown_resolve target name

end Emit
end AmbientDecls
