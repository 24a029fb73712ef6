import AmbientDecls.Data.Basic
import AmbientDecls.Text.Word

/-! References to the environment: a dollar sign and a name in braces stand for the value of a variable, and for
nothing if it is unset. Values are not looked at again. -/

namespace AmbientDecls

abbrev Environment := List (String × String)

namespace Environment

/-- The value of a variable; empty if it is unset. -/
def value (env : Environment) (name : List Char) : List Char :=
  ((env.lookup (String.ofList name)).getD "").toList

def reference? : List Char → Option (List Char × List Char)
  | '$' :: '\x7b' :: s =>
    match s.takeWhile Text.isWordChar, s.dropWhile Text.isWordChar with
    | c :: name, '\x7d' :: rest => some (c :: name, rest)
    | _, _ => none
  | _ => none

theorem eq_of_reference? {s name rest : List Char} (h : reference? s = some (name, rest)) :
    s = '$' :: '\x7b' :: (name ++ '\x7d' :: rest) ∧ name ≠ [] ∧
      ∀ c ∈ name, Text.isWordChar c = true := by
  unfold reference? at h
  split at h
  · next t =>
    split at h
    · next c n r hn hr =>
      obtain ⟨rfl, rfl⟩ := Prod.mk.inj (Option.some.inj h)
      have hall : (t.takeWhile Text.isWordChar).all Text.isWordChar = true := List.all_takeWhile
      refine ⟨?_, List.cons_ne_nil _ _, ?_⟩
      · rw [← hr, ← hn, List.takeWhile_append_dropWhile]
      · rw [← hn]
        exact List.all_eq_true.mp hall
    · simp at h
  · simp at h

theorem length_of_reference? {s name rest : List Char} (h : reference? s = some (name, rest)) :
    rest.length < s.length := by
  obtain ⟨rfl, _⟩ := eq_of_reference? h
  simp
  omega

def expandChars (env : Environment) (s : List Char) : List Char :=
  match _h : reference? s with
  | some (name, rest) => env.value name ++ expandChars env rest
  | none => match s with
    | [] => []
    | c :: s => c :: expandChars env s
termination_by s.length
decreasing_by
  · exact length_of_reference? _h
  · simp

def expandText (env : Environment) (s : String) : String := String.ofList (env.expandChars s.toList)

mutual

/-- A value with the references in its texts replaced; keys stay as they are. -/
def expand (env : Environment) : Data → Data
  | .text s => .text (env.expandText s)
  | .list items => .list (expandItems env items)
  | .map entries => .map (expandEntries env entries)
  | d => d

def expandItems (env : Environment) : List Data → List Data
  | [] => []
  | d :: ds => expand env d :: expandItems env ds

def expandEntries (env : Environment) : List (Data × Data) → List (Data × Data)
  | [] => []
  | (k, d) :: es => (k, expand env d) :: expandEntries env es

end

/-- How many lists and mappings may lie in one another where references are replaced. -/
def depthLimit : Nat := 496

/-- A value with its references replaced, unless it is too deep. -/
def expand? (env : Environment) (d : Data) : Option Data :=
  if d.depth ≤ depthLimit then some (env.expand d) else none

end Environment
end AmbientDecls
