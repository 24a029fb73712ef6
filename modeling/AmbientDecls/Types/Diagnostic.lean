import AmbientDecls.Types.Scope

/-! Emission: what it reports without failing, and the state it passes on. -/

namespace AmbientDecls

inductive DiagnosticKind
  | unresolvedType
  | unresolvedParent
  | duplicateParam
  | duplicateMember
  | memberCollision
deriving DecidableEq, Repr

namespace DiagnosticKind

def word : DiagnosticKind → String
  | unresolvedType => "unresolved-type"
  | unresolvedParent => "unresolved-parent"
  | duplicateParam => "duplicate-param"
  | duplicateMember => "duplicate-member"
  | memberCollision => "member-collision"

def all : List DiagnosticKind :=
  [duplicateMember, duplicateParam, memberCollision, unresolvedParent, unresolvedType]

def ofWord? (s : String) : Option DiagnosticKind := all.find? fun k => k.word = s

@[simp] theorem ofWord?_word (k : DiagnosticKind) : ofWord? k.word = some k := by
  cases k <;> rfl

theorem mem_all (k : DiagnosticKind) : k ∈ all := by cases k <;> decide

end DiagnosticKind

structure Diagnostic where
  kind : DiagnosticKind
  subject : String
  message : String
deriving DecidableEq, Repr

namespace Diagnostic

/-- How often each kind occurs, by ascending word; kinds that do not occur are left out. -/
def counts (ds : List Diagnostic) : List (DiagnosticKind × Nat) :=
  (DiagnosticKind.all.map fun k => (k, ds.countP fun d => d.kind = k)).filter fun c => c.2 != 0

end Diagnostic

/-- The state of emission: the scope names are resolved in, if there is one, and all diagnostics so
far. -/
structure EmitState where
  scope : Option Scope := none
  diagnostics : List Diagnostic := []
deriving DecidableEq, Repr

abbrev Emit := StateM EmitState

namespace Emit

def warn (kind : DiagnosticKind) (subject message : String) : Emit Unit :=
  modify fun s => { s with diagnostics := s.diagnostics ++ [⟨kind, subject, message⟩] }

def builtin (target : String) : Emit String := do
  let s ← get
  match s.scope with
  | none => return target
  | some scope =>
    let (name, scope) := scope.resolve target
    set { s with scope := some scope }
    return name

/-- Runs an emission in a scope of its own; the outer scope is put back afterwards. -/
def within {α : Type} (scope : Scope) (act : Emit α) : Emit (α × Scope) := do
  let outer ← get
  set { outer with scope := some scope }
  let a ← act
  let inner ← get
  set { inner with scope := outer.scope }
  return (a, inner.scope.getD scope)

end Emit
end AmbientDecls
