import Mathlib.Data.List.Basic
import Mathlib.Data.List.Forall2

/-! The types of declarations as trees. Two trees are the same up to the nesting of unions if they offer the same
alternatives, after the same has been done inside arrays and functions. -/

namespace AmbientDecls

inductive ParamMark
  | required
  | optional
  | rest
deriving DecidableEq, Repr

/-- How a parameter of a function type is written before its type. -/
structure Label where
  name : String
  mark : ParamMark
deriving DecidableEq, Repr

inductive TypeTree
  | name (text : String)
  | literal (text : String)
  | array (element : TypeTree)
  | union (alternatives : List TypeTree)
  | function (params : List (Label × TypeTree)) (returns : TypeTree)
deriving Repr

namespace TypeTree

/-- A type with several alternatives is a union, one alternative stands for itself. -/
def ofAlternatives : List TypeTree → TypeTree
  | [t] => t
  | ts => .union ts

mutual

/-- The alternatives of a type. None of them is a union, and inside them no union has a union as an
alternative. -/
def alternatives : TypeTree → List TypeTree
  | .name text => [.name text]
  | .literal text => [.literal text]
  | .array t => [.array (ofAlternatives (alternatives t))]
  | .union ts => alternativesAll ts
  | .function ps t => [.function (flatParams ps) (ofAlternatives (alternatives t))]

def alternativesAll : List TypeTree → List TypeTree
  | [] => []
  | t :: ts => alternatives t ++ alternativesAll ts

def flatParams : List (Label × TypeTree) → List (Label × TypeTree)
  | [] => []
  | p :: ps => flatParam p :: flatParams ps

def flatParam : Label × TypeTree → Label × TypeTree
  | (label, t) => (label, ofAlternatives (alternatives t))

end

/-- A type without unions in unions. -/
def flat (t : TypeTree) : TypeTree := ofAlternatives t.alternatives

def arrays : Nat → TypeTree → TypeTree
  | 0, t => t
  | n + 1, t => .array (arrays n t)

/-- The same type up to the nesting of unions. -/
def Same (t u : TypeTree) : Prop := t.alternatives = u.alternatives

theorem alternativesAll_eq (ts : List TypeTree) :
    alternativesAll ts = (ts.map alternatives).flatten := by
  induction ts with
  | nil => rfl
  | cons t ts ih => rw [alternativesAll, ih, List.map_cons, List.flatten_cons]

theorem alternatives_union (ts : List TypeTree) :
    (union ts).alternatives = (ts.map alternatives).flatten := by
  rw [alternatives, alternativesAll_eq]

namespace Same

variable {t u v : TypeTree}

@[refl] theorem refl (t : TypeTree) : Same t t := rfl

theorem trans (h : Same t u) (k : Same u v) : Same t v := Eq.trans h k

theorem flat_eq (h : Same t u) : t.flat = u.flat := congrArg ofAlternatives h

theorem array (h : Same t u) : Same (.array t) (.array u) := by
  unfold Same at h ⊢
  rw [alternatives, alternatives, h]

theorem arrays (h : Same t u) (n : Nat) : Same (arrays n t) (arrays n u) := by
  induction n with
  | zero => exact h
  | succ n ih => exact ih.array

theorem union {ts us : List TypeTree} (h : List.Forall₂ Same ts us) :
    Same (.union ts) (.union us) := by
  unfold Same
  rw [alternatives_union, alternatives_union]
  induction h with
  | nil => rfl
  | cons ht _ ih => rw [List.map_cons, List.map_cons, List.flatten_cons, List.flatten_cons, ht, ih]

theorem function {ps qs : List (Label × TypeTree)}
    (hps : List.Forall₂ (fun p q => p.1 = q.1 ∧ Same p.2 q.2) ps qs) (h : Same t u) :
    Same (.function ps t) (.function qs u) := by
  have hflat : flatParams ps = flatParams qs := by
    induction hps with
    | nil => rfl
    | cons hp _ ih =>
      obtain ⟨hlabel, ht⟩ := hp
      rw [flatParams, flatParams, ih, flatParam, flatParam, hlabel, ht]
  unfold Same at h ⊢
  rw [alternatives, alternatives, hflat, h]

end Same

theorem same_singleton (t : TypeTree) : Same (.union [t]) t := by
  unfold Same
  rw [alternatives_union, List.map_singleton, List.flatten_singleton]

theorem same_ofAlternatives (ts : List TypeTree) : Same (ofAlternatives ts) (.union ts) := by
  unfold ofAlternatives
  split
  · exact (same_singleton _).symm
  · rfl

theorem alternatives_ofAlternatives {ts : List TypeTree} (h : ∀ t ∈ ts, t.alternatives = [t]) :
    (ofAlternatives ts).alternatives = ts := by
  have hflatten : (ts.map alternatives).flatten = ts := by
    rw [List.map_congr_left h]
    induction ts with
    | nil => rfl
    | cons t ts ih =>
      rw [List.map_cons, List.flatten_cons, ih fun u hu => h u (List.mem_cons_of_mem t hu)]
      rfl
  calc (ofAlternatives ts).alternatives
      = (union ts).alternatives := same_ofAlternatives ts
    _ = (ts.map alternatives).flatten := alternatives_union ts
    _ = ts := hflatten

mutual

theorem alternatives_of_mem : (t : TypeTree) → ∀ a ∈ t.alternatives, a.alternatives = [a]
  | .name text, a, ha => by
    rw [List.mem_singleton.mp ha]
    rfl
  | .literal text, a, ha => by
    rw [List.mem_singleton.mp ha]
    rfl
  | .array t, a, ha => by
    -- the element of the array has been made flat, and making it flat again changes nothing
    rw [List.mem_singleton.mp ha, alternatives,
      alternatives_ofAlternatives (alternatives_of_mem t)]
  | .union ts, a, ha => alternatives_of_mem_all ts a ha
  | .function ps t, a, ha => by
    rw [List.mem_singleton.mp ha, alternatives, flatParams_flatParams ps,
      alternatives_ofAlternatives (alternatives_of_mem t)]
termination_by structural t => t

theorem alternatives_of_mem_all :
    (ts : List TypeTree) → ∀ a ∈ alternativesAll ts, a.alternatives = [a]
  | [], _, ha => absurd ha List.not_mem_nil
  | t :: ts, a, ha => by
    rcases List.mem_append.mp ha with ha | ha
    · exact alternatives_of_mem t a ha
    · exact alternatives_of_mem_all ts a ha
termination_by structural ts => ts

theorem flatParams_flatParams :
    (ps : List (Label × TypeTree)) → flatParams (flatParams ps) = flatParams ps
  | [] => rfl
  | p :: ps => by
    rw [flatParams, flatParams, flatParam_flatParam p, flatParams_flatParams ps]
termination_by structural ps => ps

theorem flatParam_flatParam : (p : Label × TypeTree) → flatParam (flatParam p) = flatParam p
  | (label, t) => by
    rw [flatParam, flatParam, alternatives_ofAlternatives (alternatives_of_mem t)]
termination_by structural p => p

end

theorem same_flat (t : TypeTree) : Same t.flat t :=
  alternatives_ofAlternatives (alternatives_of_mem t)

theorem same_iff_flat_eq {t u : TypeTree} : Same t u ↔ t.flat = u.flat := by
  constructor
  · exact Same.flat_eq
  · intro h
    have htu : Same t.flat u.flat := congrArg alternatives h
    exact ((same_flat t).symm.trans htu).trans (same_flat u)

theorem arrays_array (n : Nat) (t : TypeTree) : arrays n (.array t) = .array (arrays n t) := by
  induction n with
  | zero => rfl
  | succ n ih => rw [arrays, ih, arrays]

theorem same_union_cons (t : TypeTree) (ts : List TypeTree) :
    Same (.union [t, .union ts]) (.union (t :: ts)) := by
  unfold Same
  simp only [alternatives_union, List.map_cons, List.map_nil, List.flatten_cons, List.flatten_nil,
    List.append_nil]

theorem same_union_append (ts us : List TypeTree) :
    Same (.union (ts ++ us)) (.union [.union ts, .union us]) := by
  unfold Same
  simp only [alternatives_union, List.map_append, List.map_cons, List.map_nil,
    List.flatten_append, List.flatten_cons, List.flatten_nil, List.append_nil]

end TypeTree
end AmbientDecls
