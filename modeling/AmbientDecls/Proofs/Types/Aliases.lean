import AmbientDecls.Proofs.Types.Steady

/-! The aliases of a scope. They are assigned on first use, but what they are does not depend on when that was: a name has
an alias exactly if it is hidden and was resolved, and then it is the name with the prefix in front. -/

namespace AmbientDecls

/-- The name that a built-in type is known by, without array markers. -/
def identifier (target : String) : String :=
  String.ofList (target.toList.take (target.length - 2 * Slot.markers target.toList))

namespace Scope

variable {scope : Scope} {name a : String}

def Prefixed (scope : Scope) : Prop :=
  ∀ name a, (name, a) ∈ scope.aliases → a = scope.aliasPrefix ++ name

/-- Every alias is for a hidden name, and is that name with the prefix in front. -/
theorem mem_aliases_resolve (h : scope.Prefixed) (target : String) :
    (name, a) ∈ (scope.resolve target).2.aliases ↔ (name, a) ∈ scope.aliases ∨
      (name ∈ scope.shadowed ∧ a = scope.aliasPrefix ++ name) ∧ name = identifier target := by
  have hname : String.ofList (target.toList.take (target.length -
      2 * Slot.markers target.toList)) = identifier target := rfl
  unfold resolve
  simp only [hname]
  by_cases hhidden : identifier target ∈ scope.shadowed
  · simp only [List.contains_iff_mem.mpr hhidden, if_true]
    cases hlookup : scope.aliases.lookup (identifier target) with
    | some b =>
      obtain ⟨before, after, hsplit, _⟩ := List.lookup_eq_some_iff.mp hlookup
      have hb : (identifier target, b) ∈ scope.aliases := by
        rw [hsplit]
        exact List.mem_append_right before (List.mem_cons_self ..)
      refine ⟨Or.inl, ?_⟩
      rintro (hmem | ⟨⟨_, rfl⟩, rfl⟩)
      · exact hmem
      · -- the alias that is there is the one that would have been assigned
        rw [← h _ b hb]
        exact hb
    | none =>
      simp only [List.mem_append, List.mem_singleton, Prod.mk.injEq]
      constructor
      · rintro (hmem | ⟨rfl, rfl⟩)
        · exact Or.inl hmem
        · exact Or.inr ⟨⟨hhidden, rfl⟩, rfl⟩
      · rintro (hmem | ⟨⟨_, rfl⟩, rfl⟩)
        · exact Or.inl hmem
        · exact Or.inr ⟨rfl, rfl⟩
  · rw [if_neg (mt List.contains_iff_mem.mp hhidden)]
    refine ⟨Or.inl, ?_⟩
    rintro (hmem | ⟨⟨hmem, _⟩, rfl⟩)
    · exact hmem
    · exact absurd hmem hhidden

theorem Prefixed.resolve (h : scope.Prefixed) (target : String) :
    (scope.resolve target).2.Prefixed := by
  intro name a ha
  rw [resolve_aliasPrefix]
  rcases (mem_aliases_resolve h target).mp ha with hmem | ⟨⟨_, ha⟩, _⟩
  · exact h name a hmem
  · exact ha

theorem mem_aliases_resolveAll (h : scope.Prefixed) (targets : List String) :
    (name, a) ∈ (scope.resolveAll targets).aliases ↔ (name, a) ∈ scope.aliases ∨
      (name ∈ scope.shadowed ∧ a = scope.aliasPrefix ++ name) ∧ name ∈ targets.map identifier := by
  induction targets generalizing scope with
  | nil => simp [resolveAll]
  | cons target targets ih =>
    have hnext := ih (h.resolve target)
    rw [resolve_shadowed, resolve_aliasPrefix, mem_aliases_resolve h] at hnext
    rw [List.map_cons, List.mem_cons]
    refine hnext.trans ?_
    rw [or_assoc, ← and_or_left]

theorem prefixed_ofModule (m : Module) (aliasPrefix : String) :
    (Scope.ofModule m aliasPrefix).Prefixed := by
  intro name a ha
  cases ha

/-- A scope that was new has exactly the aliases of the hidden names that were resolved in it. -/
theorem mem_aliases_ofModule (m : Module) (aliasPrefix : String) (targets : List String) :
    (name, a) ∈ ((Scope.ofModule m aliasPrefix).resolveAll targets).aliases ↔
      (name ∈ m.classes.map (fun c => c.baseName) ∧ a = aliasPrefix ++ name) ∧
        name ∈ targets.map identifier := by
  refine (mem_aliases_resolveAll (prefixed_ofModule m aliasPrefix) targets).trans ?_
  exact ⟨fun h => h.resolve_left (fun hnone => by cases hnone), Or.inr⟩

end Scope
end AmbientDecls
