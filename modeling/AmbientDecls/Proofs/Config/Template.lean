import AmbientDecls.Config.Expansion
import Mathlib.Logic.ExistsUnique

/-! Texts with references to variables. A reference never begins inside another, so a text falls into literal text and
references in one way, and what the references stand for is put in without being looked at again. -/

namespace AmbientDecls

def IsVariable (name : List Char) : Prop := name ≠ [] ∧ ∀ c ∈ name, Text.isWordChar c = true

def referenceTo (name : List Char) : List Char := '$' :: '\x7b' :: (name ++ ['\x7d'])

/-- No reference stands anywhere in a text. -/
def IsLiteral (s : List Char) : Prop := ∀ name, IsVariable name → ¬ referenceTo name <:+: s

theorem isLiteral_nil : IsLiteral [] := by
  rintro name - h
  cases List.infix_nil.mp h

namespace Environment

variable {c : Char} {name s rest : List Char}

theorem reference?_eq_some_iff : reference? s = some (name, rest) ↔ IsVariable name ∧ s = referenceTo name ++ rest := by
  constructor
  · intro h
    obtain ⟨hs, hempty, hword⟩ := eq_of_reference? h
    exact ⟨⟨hempty, hword⟩, by rw [hs]; simp [referenceTo]⟩
  · rintro ⟨⟨hempty, hword⟩, rfl⟩
    obtain ⟨c, n, rfl⟩ := List.exists_cons_of_ne_nil hempty
    have hbrace : Text.isWordChar '\x7d' = false := by decide
    have htake : (c :: n ++ '\x7d' :: rest).takeWhile Text.isWordChar = c :: n := by
      rw [List.takeWhile_append_of_pos hword, List.takeWhile_cons_of_neg (by simp [hbrace]), List.append_nil]
    have hdrop : (c :: n ++ '\x7d' :: rest).dropWhile Text.isWordChar = '\x7d' :: rest := by
      rw [List.dropWhile_append_of_pos hword, List.dropWhile_cons_of_neg (by simp [hbrace])]
    have hshape : referenceTo (c :: n) ++ rest = '$' :: '\x7b' :: (c :: n ++ '\x7d' :: rest) := by simp [referenceTo]
    rw [hshape, reference?, htake, hdrop]
    rfl

/-- Nothing but the first character of a reference can begin one. -/
theorem dollar_notMem_tail (h : IsVariable name) : '$' ∉ (referenceTo name).tail := by
  intro hmem
  have hname : '$' ∈ name := by simpa [referenceTo] using hmem
  exact absurd (h.2 _ hname) (by decide)

/-- A character of literal text does not begin a reference, whatever reference comes behind the text. -/
theorem reference?_of_isLiteral (h : IsLiteral (c :: s)) (hrest : rest = [] ∨ rest.head? = some '$') :
    reference? (c :: s ++ rest) = none := by
  refine Option.eq_none_iff_forall_ne_some.mpr fun ⟨name, after⟩ hsome => ?_
  obtain ⟨hname, heq⟩ := reference?_eq_some_iff.mp hsome
  rcases List.append_eq_append_iff.mp heq with ⟨back, hback, hafter⟩ | ⟨back, hback, -⟩
  -- the reference would end behind the text, and so hold the dollar sign that comes there
  · rcases back with - | ⟨d, back⟩
    · rw [List.append_nil] at hback
      exact h name hname (hback ▸ List.infix_refl _)
    · obtain rfl : d = '$' := by simpa [hafter] using hrest
      refine dollar_notMem_tail hname ?_
      rw [hback]
      simp
  · exact h name hname (hback ▸ (List.prefix_append _ back).isInfix)

/-- In front of literal text, a character that begins no reference is literal too. -/
theorem isLiteral_cons (h : IsLiteral s) (hc : reference? (c :: s ++ rest) = none) : IsLiteral (c :: s) := by
  intro name hname hinfix
  rcases List.infix_cons_iff.mp hinfix with hprefix | hinfix
  · obtain ⟨after, hafter⟩ := hprefix
    have hsome : reference? (c :: s ++ rest) = some (name, after ++ rest) :=
      reference?_eq_some_iff.mpr ⟨hname, by rw [← hafter, List.append_assoc]⟩
    rw [hc] at hsome
    cases hsome
  · exact h name hname hinfix

variable (env : Environment)

theorem expandChars_nil : env.expandChars [] = [] := by
  rw [expandChars]
  rfl

theorem expandChars_cons (h : reference? (c :: s) = none) :
    env.expandChars (c :: s) = c :: env.expandChars s := by
  rw [expandChars]
  split
  · rename_i hsome
    rw [h] at hsome
    cases hsome
  · rfl

theorem expandChars_reference (h : IsVariable name) :
    env.expandChars (referenceTo name ++ s) = env.value name ++ env.expandChars s := by
  have hsome : reference? (referenceTo name ++ s) = some (name, s) := reference?_eq_some_iff.mpr ⟨h, rfl⟩
  rw [expandChars]
  split
  · rename_i hfound
    rw [hsome] at hfound
    obtain ⟨rfl, rfl⟩ := Prod.mk.inj (Option.some.inj hfound)
    rfl
  · rename_i hnone
    rw [hsome] at hnone
    cases hnone

end Environment

/-- Literal text, and names of variables with literal text behind each. -/
structure Template where
  lead : List Char
  references : List (List Char × List Char)
  lead_literal : IsLiteral lead
  isVariable : ∀ r ∈ references, IsVariable r.1
  isLiteral : ∀ r ∈ references, IsLiteral r.2

namespace Template

open Environment

def written (t : Template) : List Char := t.lead ++ t.references.flatMap fun r => referenceTo r.1 ++ r.2

/-- The text with the values of the variables in the places of the references. -/
def filled (env : Environment) (t : Template) : List Char :=
  t.lead ++ t.references.flatMap fun r => env.value r.1 ++ r.2

def empty : Template := ⟨[], [], isLiteral_nil, by simp, by simp⟩

/-- A character that begins no reference in front of a template. -/
def cons (c : Char) (t : Template) (h : reference? (c :: t.written) = none) : Template :=
  ⟨c :: t.lead, t.references, isLiteral_cons t.lead_literal h, t.isVariable, t.isLiteral⟩

/-- A reference in front of a template. -/
def reference (name : List Char) (h : IsVariable name) (t : Template) : Template :=
  ⟨[], (name, t.lead) :: t.references, isLiteral_nil, List.forall_mem_cons.mpr ⟨h, t.isVariable⟩,
    List.forall_mem_cons.mpr ⟨t.lead_literal, t.isLiteral⟩⟩

section Equations

variable {env : Environment} {c : Char} {name : List Char} {t : Template}

@[simp] theorem written_empty : empty.written = [] := rfl

@[simp] theorem written_cons (h : reference? (c :: t.written) = none) :
    (cons c t h).written = c :: t.written := rfl

@[simp] theorem written_reference (h : IsVariable name) :
    (reference name h t).written = referenceTo name ++ t.written := by
  simp [written, reference]

@[simp] theorem filled_empty : empty.filled env = [] := rfl

@[simp] theorem filled_cons (h : reference? (c :: t.written) = none) :
    (cons c t h).filled env = c :: t.filled env := rfl

@[simp] theorem filled_reference (h : IsVariable name) :
    (reference name h t).filled env = env.value name ++ t.filled env := by
  simp [filled, reference]

end Equations

/-- A template is built from its end on, character by character and reference by reference. -/
@[elab_as_elim]
theorem induction {motive : Template → Prop} (empty : motive empty)
    (cons : ∀ c t h, motive t → motive (cons c t h))
    (reference : ∀ name h t, motive t → motive (reference name h t)) (t : Template) : motive t := by
  obtain ⟨lead, references, hlead, hvariable, hliteral⟩ := t
  induction references generalizing lead with
  | nil =>
    induction lead with
    | nil => exact empty
    | cons c lead ih =>
      have hlead' : IsLiteral lead := fun name h hinfix => hlead name h (List.infix_cons hinfix)
      exact cons c ⟨lead, [], hlead', hvariable, hliteral⟩ (reference?_of_isLiteral hlead (Or.inl rfl)) (ih hlead')
  | cons r references ihr =>
    obtain ⟨hname, hvariable'⟩ := List.forall_mem_cons.mp hvariable
    obtain ⟨hbehind, hliteral'⟩ := List.forall_mem_cons.mp hliteral
    induction lead with
    | nil => exact reference r.1 hname ⟨r.2, references, hbehind, hvariable', hliteral'⟩ (ihr _ _ _ _)
    | cons c lead ih =>
      have hlead' : IsLiteral lead := fun name h hinfix => hlead name h (List.infix_cons hinfix)
      exact cons c ⟨lead, r :: references, hlead', hvariable, hliteral⟩
        (reference?_of_isLiteral hlead (Or.inr rfl)) (ih hlead')

theorem expandChars_written (env : Environment) (t : Template) : env.expandChars t.written = t.filled env := by
  induction t using Template.induction with
  | empty => exact expandChars_nil env
  | cons c t h ih => rw [written_cons, expandChars_cons env h, ih, filled_cons]
  | reference name h t ih => rw [written_reference, expandChars_reference env h, ih, filled_reference]

theorem exists_written (s : List Char) : ∃ t : Template, t.written = s := by
  fun_induction expandChars [] s with
  | case1 s name rest hsome ih =>
    obtain ⟨hname, rfl⟩ := reference?_eq_some_iff.mp hsome
    obtain ⟨t, rfl⟩ := ih
    exact ⟨reference name hname t, written_reference hname⟩
  | case2 => exact ⟨empty, rfl⟩
  | case3 c s hnone ih =>
    obtain ⟨t, rfl⟩ := ih
    exact ⟨cons c t hnone, rfl⟩

end Template
end AmbientDecls
