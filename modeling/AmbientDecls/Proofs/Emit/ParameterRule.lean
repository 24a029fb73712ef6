import AmbientDecls.Proofs.Data.Firsts
import AmbientDecls.Proofs.Emit.Steady

/-! The rule that lists of parameters follow, those of methods and those of callbacks. Up to the first rest parameter with a new
name, parameters are declared in their order, each name once, and required ones do not come after optional ones. -/

namespace AmbientDecls

open Emit

namespace Param

/-- The name that a parameter has in declarations. -/
def shown (p : Param) : String := paramName p.name

/-- Whether a parameter takes in all that are documented behind it. -/
def isRest (p : Param) : Bool := (restElement? p.type).isSome

/-- The type before the mark of a rest parameter. -/
def element (p : Param) : String := (restElement? p.type).getD ""

/-- The parameters before the first that takes in others under a new name, and those from there on. -/
def split : List String → List Param → List Param × List Param
  | _, [] => ([], [])
  | seen, p :: ps =>
    if p.shown ∈ seen then (p :: (split seen ps).1, (split seen ps).2)
    else if p.isRest then ([], p :: ps)
    else (p :: (split (p.shown :: seen) ps).1, (split (p.shown :: seen) ps).2)

theorem split_cons_of_mem {seen : List String} {p : Param} (h : p.shown ∈ seen) (ps : List Param) :
    split seen (p :: ps) = (p :: (split seen ps).1, (split seen ps).2) := if_pos h

theorem split_cons_of_isRest {seen : List String} {p : Param} (h : p.shown ∉ seen)
    (hrest : p.isRest = true) (ps : List Param) : split seen (p :: ps) = ([], p :: ps) := by
  rw [split, if_neg h, if_pos hrest]

theorem split_cons_of_not_isRest {seen : List String} {p : Param} (h : p.shown ∉ seen)
    (hrest : p.isRest = false) (ps : List Param) : split seen (p :: ps) =
      (p :: (split (p.shown :: seen) ps).1, (split (p.shown :: seen) ps).2) := by
  rw [split, if_neg h, if_neg (Bool.eq_false_iff.mp hrest)]

theorem split_append (seen : List String) (ps : List Param) :
    (split seen ps).1 ++ (split seen ps).2 = ps := by
  induction ps generalizing seen with
  | nil => rfl
  | cons p ps ih =>
    by_cases h : p.shown ∈ seen
    · rw [split_cons_of_mem h, List.cons_append, ih]
    · cases hrest : p.isRest with
      | true => rw [split_cons_of_isRest h hrest, List.nil_append]
      | false => rw [split_cons_of_not_isRest h hrest, List.cons_append, ih]

/-- None of the parameters before takes in others, but under a name that came before. -/
theorem isRest_of_mem_firsts (seen : List String) (ps : List Param) :
    ∀ p ∈ firsts shown seen (split seen ps).1, p.isRest = false := by
  induction ps generalizing seen with
  | nil => exact fun p hp => absurd hp List.not_mem_nil
  | cons p ps ih =>
    by_cases h : p.shown ∈ seen
    · rw [split_cons_of_mem h, firsts_cons_of_mem h]
      exact ih seen
    · cases hrest : p.isRest with
      | true =>
        rw [split_cons_of_isRest h hrest]
        exact fun q hq => absurd hq List.not_mem_nil
      | false =>
        rw [split_cons_of_not_isRest h hrest, firsts_cons_of_not_mem h]
        exact List.forall_mem_cons.mpr ⟨hrest, ih (p.shown :: seen)⟩

theorem isRest_of_split {seen : List String} {ps : List Param} {p : Param} {behind : List Param}
    (h : (split seen ps).2 = p :: behind) :
    p.isRest = true ∧ p.shown ∉ seen ∧ p.shown ∉ (split seen ps).1.map shown := by
  induction ps generalizing seen with
  | nil => cases h
  | cons q ps ih =>
    by_cases hq : q.shown ∈ seen
    · rw [split_cons_of_mem hq] at h ⊢
      obtain ⟨hrest, hseen, hfront⟩ := ih h
      refine ⟨hrest, hseen, ?_⟩
      rw [List.map_cons, List.mem_cons, not_or]
      exact ⟨fun heq => hseen (heq ▸ hq), hfront⟩
    · cases hrest : q.isRest with
      | true =>
        rw [split_cons_of_isRest hq hrest] at h ⊢
        obtain ⟨rfl, rfl⟩ := List.cons.inj h
        exact ⟨hrest, hq, List.not_mem_nil⟩
      | false =>
        rw [split_cons_of_not_isRest hq hrest] at h ⊢
        obtain ⟨hprest, hseen, hfront⟩ := ih h
        obtain ⟨hne, hseen⟩ := List.ne_and_not_mem_of_not_mem_cons hseen
        refine ⟨hprest, hseen, ?_⟩
        rw [List.map_cons, List.mem_cons, not_or]
        exact ⟨hne, hfront⟩

/-- No name stands twice among the parameters that stay and the one that takes in the others. -/
theorem nodup_map_shown (seen : List String) (ps : List Param) :
    ((firsts shown seen (split seen ps).1 ++ (split seen ps).2.take 1).map shown).Nodup := by
  rw [List.map_append]
  cases hrest : (split seen ps).2 with
  | nil => simpa using nodup_map_firsts shown seen (split seen ps).1
  | cons p behind =>
    obtain ⟨_, _, hfront⟩ := isRest_of_split hrest
    refine (nodup_map_firsts _ _ _).append (List.nodup_singleton _) fun name hkept hname => ?_
    obtain rfl := List.mem_singleton.mp hname
    exact hfront (mem_map_firsts.mp hkept).2

end Param

/-- What lists of parameters are made by: what types come to, the types that are meant for certain names, and what is
reported of a name that came before. -/
structure ParamRule where
  conv : String → Option (List Param) → Result String
  fixed? : String → Option String
  repeated : String → Diagnostic

namespace ParamRule

variable (g : ParamRule)

def typed (p : Param) : Result String :=
  match g.fixed? p.name with
  | some t => ⟨t, [], []⟩
  | none => g.conv p.type p.properties

def declared : List Param → List String → Bool → Result (List Parameter)
  | [], _, _ => ⟨[], [], []⟩
  | p :: ps, seen, optional =>
    if p.shown ∈ seen then
      let more := declared ps seen optional
      ⟨more.value, more.targets, g.repeated p.shown :: more.reports⟩
    else if p.isRest then
      if ps.isEmpty then
        let t := g.conv p.element p.properties
        ⟨[⟨p.shown, arrayOf t.value, false, true⟩], t.targets, t.reports⟩
      else ⟨[⟨p.shown, unknownType ++ "[]", false, true⟩], [], []⟩
    else
      let t := g.typed p
      let more := declared ps (p.shown :: seen) (optional || p.optional)
      ⟨⟨p.shown, t.value, optional || p.optional, false⟩ :: more.value, t.targets ++ more.targets,
        t.reports ++ more.reports⟩

end ParamRule

namespace Parameter

/-- A parameter with the mark that it has behind others. -/
def entry (text : Param → String) (optional : Bool) (p : Param) : Parameter :=
  ⟨p.shown, text p, optional, false⟩

/-- Parameters behind others that were optional, or not: all are marked from the first optional one on. -/
def marked (text : Param → String) (optional : Bool) (ps : List Param) : List Parameter :=
  (ps.takeWhile fun p => !(optional || p.optional)).map (entry text false) ++
    (ps.dropWhile fun p => !(optional || p.optional)).map (entry text true)

/-- The first of some parameters, which takes in the others. -/
def takingIn (text : Param → String) : List Param → List Parameter
  | [] => []
  | p :: behind =>
    [⟨p.shown, if behind.isEmpty then arrayOf (text p) else unknownType ++ "[]", false, true⟩]

theorem marked_cons (text : Param → String) (optional : Bool) (p : Param) (ps : List Param) :
    marked text optional (p :: ps) = entry text (optional || p.optional) p ::
      marked text (optional || p.optional) ps := by
  unfold marked
  cases h : optional || p.optional with
  | true =>
    have hall : ps.takeWhile (fun q => !(true || q.optional)) = [] := by cases ps <;> simp
    have hnone : ps.dropWhile (fun q => !(true || q.optional)) = ps := by cases ps <;> simp
    rw [List.takeWhile_cons_of_neg (by simp [h]), List.dropWhile_cons_of_neg (by simp [h]), hall, hnone]
    rfl
  | false =>
    obtain ⟨rfl, _⟩ := Bool.or_eq_false_iff.mp h
    rw [List.takeWhile_cons_of_pos (by simp [h]), List.dropWhile_cons_of_pos (by simp [h])]
    rfl

end Parameter

namespace ParamRule

open Param Parameter

variable {g : ParamRule}

/-- What is declared: the parameters before, each name once, and one that takes in all from there on. -/
theorem value_declared (ps : List Param) (seen : List String) (optional : Bool) :
    (g.declared ps seen optional).value =
      marked (fun p => (g.typed p).value) optional (firsts shown seen (split seen ps).1) ++
        takingIn (fun p => (g.conv p.element p.properties).value) (split seen ps).2 := by
  induction ps generalizing seen optional with
  | nil => rfl
  | cons p ps ih =>
    unfold declared
    by_cases h : p.shown ∈ seen
    · rw [if_pos h, split_cons_of_mem h, firsts_cons_of_mem h]
      exact ih seen optional
    · rw [if_neg h]
      cases hrest : p.isRest with
      | true =>
        rw [if_pos rfl, split_cons_of_isRest h hrest]
        cases ps <;> rfl
      | false =>
        rw [if_neg Bool.false_ne_true, split_cons_of_not_isRest h hrest, firsts_cons_of_not_mem h,
          marked_cons, List.cons_append]
        exact congrArg (List.cons _) (ih _ _)

/-- One report is made of each parameter before whose name came before, whatever else is reported of types. -/
theorem reports_declared {p : Diagnostic → Bool} (hrepeated : ∀ name, p (g.repeated name) = true)
    (hconv : ∀ type properties, ∀ d ∈ (g.conv type properties).reports, p d = false)
    (ps : List Param) (seen : List String) (optional : Bool) :
    (g.declared ps seen optional).reports.filter p =
      (repeats shown seen (split seen ps).1).map fun q => g.repeated q.shown := by
  have hnone : ∀ type properties, (g.conv type properties).reports.filter p = [] := by
    intro type properties
    exact List.filter_eq_nil_iff.mpr fun d hd => by simp [hconv type properties d hd]
  have htyped : ∀ q, (g.typed q).reports.filter p = [] := by
    intro q
    unfold typed
    split
    · rfl
    · exact hnone _ _
  induction ps generalizing seen optional with
  | nil => rfl
  | cons q ps ih =>
    unfold declared
    by_cases h : q.shown ∈ seen
    · rw [if_pos h, split_cons_of_mem h, repeats_cons_of_mem h, List.map_cons,
        List.filter_cons_of_pos (hrepeated _), ih]
    · rw [if_neg h]
      cases hrest : q.isRest with
      | true =>
        rw [if_pos rfl, split_cons_of_isRest h hrest]
        split
        · exact hnone _ _
        · rfl
      | false =>
        rw [if_neg Bool.false_ne_true, split_cons_of_not_isRest h hrest, repeats_cons_of_not_mem h]
        simp only [List.filter_append, htyped, List.nil_append]
        exact ih _ _

/-- Rules that report repeated names in one kind differ in nothing but these reports. -/
theorem declared_congr {k : ParamRule} (hconv : g.conv = k.conv) (hfixed : g.fixed? = k.fixed?)
    (hkind : ∀ name, (g.repeated name).kind = (k.repeated name).kind)
    (ps : List Param) (seen : List String) (optional : Bool) :
    (g.declared ps seen optional).value = (k.declared ps seen optional).value ∧
      (g.declared ps seen optional).targets = (k.declared ps seen optional).targets ∧
      (g.declared ps seen optional).reports.map Diagnostic.kind =
        (k.declared ps seen optional).reports.map Diagnostic.kind := by
  have htyped : g.typed = k.typed := by
    funext p
    rw [typed, typed, hconv, hfixed]
  induction ps generalizing seen optional with
  | nil => exact ⟨rfl, rfl, rfl⟩
  | cons p ps ih =>
    unfold declared
    rw [hconv, htyped]
    by_cases h : p.shown ∈ seen
    · simp only [if_pos h]
      obtain ⟨hvalue, htargets, hreports⟩ := ih seen optional
      exact ⟨hvalue, htargets, by rw [List.map_cons, List.map_cons, hkind, hreports]⟩
    · simp only [if_neg h]
      cases hrest : p.isRest with
      | true => exact ⟨rfl, rfl, rfl⟩
      | false =>
        obtain ⟨hvalue, htargets, hreports⟩ := ih (p.shown :: seen) (optional || p.optional)
        simp only [Bool.false_eq_true, if_false, hvalue, htargets, List.map_append, hreports,
          and_self]

end ParamRule
end AmbientDecls
