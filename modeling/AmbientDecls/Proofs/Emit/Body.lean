import AmbientDecls.Emit.File
import AmbientDecls.Proofs.Data.Firsts
import AmbientDecls.Proofs.Types.Emission

/-! The members that a class body declares. Which names it declares, on which side, and which of them are constructors
does not depend on the state of the emission: a member is declared unless it is left out, gives way to a member
of another kind, or repeats a declaration. -/

namespace AmbientDecls

/-- A constructor is declared as a method without a return type. -/
def Signature.isConstructor : Signature → Bool
  | .method _ none => true
  | _ => false

namespace MemberDecl

def isConstructor (d : MemberDecl) : Bool := d.signature.isConstructor

def entry (d : MemberDecl) : (String × Bool) × Bool := (d.key, d.isConstructor)

end MemberDecl

namespace Emitter

variable (e : Emitter) (c : ClassRef) (m : Member) (s : EmitState)

/-- Whether a member gives way to a member of its name and another kind. -/
def yields : Bool :=
  match m.body with
  | .property .. => e.has c m .method
  | .config .. => e.has c m .method || e.has c m .property || c.singleton
  | .method .. => false

def declares : Bool := e.registry.shouldEmit c m && !e.yields c m

def memberKey (c : ClassRef) (m : Member) : String × Bool := (m.name, c.singleton || m.isStatic)

def memberEntry (c : ClassRef) (m : Member) : (String × Bool) × Bool :=
  (memberKey c m, m.isConstructor)

/-- A signature is missing exactly for a member that gives way; a constructor has no return type. -/
theorem map_signature? :
    ((e.signature? c m).run s).1.map Signature.isConstructor =
      if e.yields c m then none else some m.isConstructor := by
  unfold signature? yields
  cases hbody : m.body with
  | property type optional =>
    have hctor : m.isConstructor = false := by simp [Member.isConstructor, Member.kind, hbody]
    rw [hctor]
    cases hmethod : e.has c m .method <;> rfl
  | config type optional required =>
    have hctor : m.isConstructor = false := by simp [Member.isConstructor, Member.kind, hbody]
    rw [hctor]
    cases hmethod : e.has c m .method
    · cases hproperty : e.has c m .property <;> cases hsingle : c.singleton <;> rfl
    · rfl
  | method params returns =>
    cases hctor : m.isConstructor
    · cases returns <;> rfl
    · rfl

theorem map_member :
    ((e.member c m).run s).1.map MemberDecl.entry =
      if e.declares c m then some (memberEntry c m) else none := by
  unfold member declares
  cases hshould : e.registry.shouldEmit c m
  · rfl
  · simp only [Emit.run_bind, Emit.run_pure, Bool.true_and, if_true]
    have hsignature := e.map_signature? c m s
    cases hs : ((e.signature? c m).run s).1 with
    | none => cases hyields : e.yields c m <;> simp_all
    | some signature =>
      cases hyields : e.yields c m
      · have hctor : signature.isConstructor = m.isConstructor := by simp_all
        simp [declare, MemberDecl.entry, MemberDecl.key, MemberDecl.isConstructor, memberEntry,
          memberKey, hctor]
      · simp_all

/-- A member has a text if it is not left out and does not give way. -/
theorem isSome_member : ((e.member c m).run s).1.isSome = e.declares c m := by
  have hentry := congrArg Option.isSome (e.map_member c m s)
  rw [Option.isSome_map] at hentry
  rw [hentry]
  cases e.declares c m <;> rfl

variable {e c m s} in
theorem key_member {d : MemberDecl} (h : ((e.member c m).run s).1 = some d) : d.key = memberKey c m := by
  have hentry := e.map_member c m s
  rw [h] at hentry
  split at hentry
  · exact congrArg Prod.fst (Option.some.inj hentry)
  · cases hentry

/-- The body of a class declares the members that have a declaration, each key once. -/
theorem map_body (ms : List Member) (emitted : List (String × Bool)) :
    ((e.body c ms emitted).run s).1.map MemberDecl.entry =
      firsts Prod.fst emitted ((ms.filter (e.declares c)).map (memberEntry c)) := by
  induction ms generalizing emitted s with
  | nil => rfl
  | cons m ms ih =>
    have hmember := e.map_member c m s
    unfold body
    rw [Emit.run_bind]
    cases hd : ((e.member c m).run s).1 with
    | none =>
      have hdeclares : e.declares c m = false := by
        cases h : e.declares c m <;> simp_all
      rw [List.filter_cons_of_neg (by simp [hdeclares])]
      exact ih _ emitted
    | some d =>
      have hdeclares : e.declares c m = true := by
        cases h : e.declares c m <;> simp_all
      have hentry : d.entry = memberEntry c m := by simp_all
      have hkey : d.key = (memberEntry c m).1 := congrArg Prod.fst hentry
      rw [List.filter_cons_of_pos hdeclares, List.map_cons]
      simp only
      by_cases hmem : d.key ∈ emitted
      · rw [if_pos (by simpa using hmem), firsts_cons_of_mem (hkey ▸ hmem)]
        exact ih _ emitted
      · rw [if_neg (by simpa using hmem), firsts_cons_of_not_mem (hkey ▸ hmem), ← hkey,
          ← hentry]
        exact congrArg (List.cons d.entry) (ih _ (d.key :: emitted))

theorem map_classDecl :
    ((e.classDecl c).run s).1.members.map MemberDecl.entry =
      firsts Prod.fst [] ((c.members.filter (e.declares c)).map (memberEntry c)) := by
  unfold classDecl
  split
  · exact e.map_body c _ c.members []
  · exact e.map_body c _ c.members []

theorem exists_key_classDecl {k : String × Bool} :
    (∃ d ∈ ((e.classDecl c).run s).1.members, d.key = k) ↔
      ∃ m ∈ c.members, e.declares c m = true ∧ memberKey c m = k := by
  have hkeys : ((e.classDecl c).run s).1.members.map MemberDecl.key =
      (((e.classDecl c).run s).1.members.map MemberDecl.entry).map Prod.fst := by
    rw [List.map_map]
    rfl
  have hmem : k ∈ ((e.classDecl c).run s).1.members.map MemberDecl.key ↔
      k ∈ ((c.members.filter (e.declares c)).map (memberEntry c)).map Prod.fst := by
    rw [hkeys, map_classDecl, mem_map_firsts]
    simp
  simpa [and_assoc, memberEntry] using hmem

theorem exists_member_of_mem_classDecl {d : MemberDecl}
    (h : d ∈ ((e.classDecl c).run s).1.members) :
    ∃ m ∈ c.members, e.declares c m = true ∧ d.key = memberKey c m ∧
      d.isConstructor = m.isConstructor := by
  have hentry : d.entry ∈ firsts Prod.fst []
      ((c.members.filter (e.declares c)).map (memberEntry c)) := by
    rw [← map_classDecl e c s]
    exact List.mem_map_of_mem h
  obtain ⟨m, hm, heq⟩ := List.mem_map.mp ((firsts_sublist _ _ _).subset hentry)
  obtain ⟨hmem, hdeclares⟩ := List.mem_filter.mp hm
  exact ⟨m, hmem, hdeclares, (congrArg Prod.fst heq).symm, (congrArg Prod.snd heq).symm⟩

theorem base_classDecl : ((e.classDecl c).run s).1.base = e.extends? c := by
  unfold classDecl
  split <;> rfl

end Emitter
end AmbientDecls
