import AmbientDecls.Docs.Registry
import AmbientDecls.Types.Slot

/-! Names inside a module: a class of the module hides the built-in type of its name, which is then
referred to through an alias. -/

namespace AmbientDecls

structure Scope where
  shadowed : List String
  aliasPrefix : String
  aliases : List (String × String) := []
deriving DecidableEq, Repr

namespace Scope

/-- The scope of a module: every class hides its base name. -/
def ofModule (m : Module) (aliasPrefix : String) : Scope :=
  ⟨m.classes.map fun c => c.baseName, aliasPrefix, []⟩

def resolve (scope : Scope) (target : String) : String × Scope :=
  let depth := Slot.markers target.toList
  let name := String.ofList (target.toList.take (target.length - 2 * depth))
  if scope.shadowed.contains name then
    match scope.aliases.lookup name with
    | some a => (a ++ Slot.brackets depth, scope)
    | none =>
      let a := scope.aliasPrefix ++ name
      (a ++ Slot.brackets depth, { scope with aliases := scope.aliases ++ [(name, a)] })
  else (target, scope)

@[simp] theorem resolve_shadowed (scope : Scope) (target : String) :
    (scope.resolve target).2.shadowed = scope.shadowed := by
  unfold resolve
  grind

@[simp] theorem resolve_aliasPrefix (scope : Scope) (target : String) :
    (scope.resolve target).2.aliasPrefix = scope.aliasPrefix := by
  unfold resolve
  grind

end Scope
end AmbientDecls
