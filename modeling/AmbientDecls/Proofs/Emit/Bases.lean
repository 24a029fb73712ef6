import AmbientDecls.Proofs.Emit.Inheritance

/-! The bases of configuration interfaces. From base to base one comes to an ancestor each time, so the way ends, and no
class is on it twice. The base is the nearest ancestor with a constructor, except that no base is looked for where
all ancestors hide, or lack, a first instance member of that name. -/

namespace AmbientDecls

/-- The first constructor that a class documents, on whatever side. -/
def ClassRecord.constructor? (c : ClassRecord) : Option Member := c.members.find? Member.isConstructor

namespace Registry

theorem mem_of_configBase? {r : Registry} {c b : ClassRef} (h : r.configBase? c = some b) :
    b ∈ r.ancestors c ∧ r.emitsConstructor b = true := by
  unfold configBase? at h
  split at h
  · exact ⟨List.mem_of_find?_eq_some h, List.find?_some h⟩
  · cases h

variable {records : List ClassRecord} {c : ClassRef}

/-- From base to base the ancestors get fewer, so there is a last base. -/
theorem exists_walk_configBase? (records : List ClassRecord) (c : ClassRef) :
    ∃ l, Walk (ofRecords records).configBase? id c l ∧
      l.Sublist ((ofRecords records).ancestors c) := by
  induction hlength : ((ofRecords records).ancestors c).length using Nat.strongRecOn
    generalizing c with
  | _ n ih =>
    cases hbase : (ofRecords records).configBase? c with
    | none => exact ⟨[], .done hbase, List.nil_sublist _⟩
    | some b =>
      obtain ⟨below, above, hsplit⟩ := List.append_of_mem (mem_of_configBase? hbase).1
      -- the ancestors of the base are those behind it
      have habove := eq_ancestors_of_append hsplit
      have hfewer : ((ofRecords records).ancestors b).length < n := by
        rw [← habove, ← hlength, hsplit, List.length_append, List.length_cons]
        omega
      obtain ⟨l, hl, hsub⟩ := ih _ hfewer b rfl
      refine ⟨b :: l, .on hbase hl, ?_⟩
      rw [hsplit, habove]
      exact (hsub.cons_cons b).trans (List.sublist_append_right _ _)

theorem configChain_succ (r : Registry) (fuel : Nat) (c : ClassRef) : r.configChain (fuel + 1) c =
    (r.configBase? c).elim [] fun b => b :: r.configChain fuel b := by
  rw [configChain]
  cases r.configBase? c <;> rfl

theorem length_chain_le (r : Registry) (fuel : Nat) (name : String) :
    (r.chain fuel name).length ≤ fuel := by
  induction fuel generalizing name with
  | zero => exact Nat.le_refl 0
  | succ fuel ih =>
    unfold chain
    split
    · exact Nat.zero_le _
    · exact Nat.succ_le_succ (ih _)

variable (records c)

/-- The configuration bases of a class are the whole walk from base to base, and ancestors of the class in their order. -/
theorem walk_configBases :
    Walk (ofRecords records).configBase? id c ((ofRecords records).configBases c) ∧
      ((ofRecords records).configBases c).Sublist ((ofRecords records).ancestors c) := by
  obtain ⟨l, hl, hsub⟩ := exists_walk_configBase? records c
  have hfuel : l.length ≤ (ofRecords records).size + 1 :=
    Nat.le_trans hsub.length_le (Nat.le_trans (length_chain_le _ _ _) (Nat.le_succ _))
  have hbases : (ofRecords records).configBases c = l :=
    hl.search_eq (fun _ => rfl) (configChain_succ _) hfuel
  rw [hbases]
  exact ⟨hl, hsub⟩

variable {records c}

theorem configBases_eq : (ofRecords records).configBases c =
    match (ofRecords records).configBase? c with
    | none => []
    | some b => b :: (ofRecords records).configBases b := by
  have hwalk := (walk_configBases records c).1
  cases hbase : (ofRecords records).configBase? c with
  | none => exact hwalk.unique (.done hbase)
  | some b => exact hwalk.unique (.on hbase (walk_configBases records b).1)

/-- A class has a constructor in its declaration if it is no single object and shows the first one it documents. -/
theorem emitsConstructor_iff (hc : (ofRecords records).Proper c) :
    (ofRecords records).emitsConstructor c = true ↔
      c.singleton = false ∧ ∃ m, c.constructor? = some m ∧ c.shows m = true := by
  have hfind : (ofRecords records).member? c "constructor" (some [.method]) none =
      c.constructor? := by
    rw [member?_eq hc, ClassRecord.constructor?]
    congr 1
    funext m
    rw [Member.isConstructor, Bool.eq_iff_iff]
    cases m.kind <;> simp
  unfold emitsConstructor
  rw [hfind]
  cases hfirst : c.constructor? with
  | none => simp
  | some m =>
    have hctor : m.isConstructor = true := List.find?_some hfirst
    simp only [shouldEmit_iff, hctor, Option.some.injEq, exists_eq_left', true_or, and_true]
    cases c.singleton <;> simp

end Registry

/-! A class that has a static constructor only, or one behind a hidden property of that name, and a class below it. -/

def exampleConstructor (isStatic : Bool) : Member :=
  { name := "constructor", isStatic := isStatic, body := .method [] none }

def staticMaker : ClassRecord := { name := "Ext.Base", members := [exampleConstructor true] }

def hiddenMaker : ClassRecord :=
  { name := "Ext.Base", members :=
      [{ name := "constructor", isPrivate := true, body := .property "Object" false },
        exampleConstructor false] }

def plainMaker : ClassRecord :=
  { name := "Ext.Sub", parent := "Ext.Base", members := [exampleConstructor false] }

namespace Registry

/-- The base of a configuration interface is the nearest ancestor that has one exactly if there is none, or some ancestor
shows the first instance member that it documents as a constructor, of whatever kind; otherwise there is no base. -/
theorem configBase?_eq_nearest_iff (records : List ClassRecord) (c : ClassRef) :
    let r := ofRecords records
    let nearest := (r.ancestors c).find? r.emitsConstructor
    (r.configBase? c = nearest ↔
      (∀ a ∈ r.ancestors c, r.emitsConstructor a = false) ∨
        ∃ a ∈ r.ancestors c, a.showsFirst "constructor" false = true) ∧
    (r.configBase? c ≠ nearest → r.configBase? c = none) ∧
    ∀ a ∈ r.ancestors c, (r.emitsConstructor a = true ↔
      a.singleton = false ∧ ∃ m, a.constructor? = some m ∧ a.shows m = true) := by
  intro r nearest
  refine ⟨?_, ?_, fun a ha => emitsConstructor_iff (proper_of_mem_ancestors ha)⟩
  all_goals unfold configBase?; rw [parentEmits_eq]
  · rw [← List.any_eq_true]
    cases hshows : (r.ancestors c).any fun a => a.showsFirst "constructor" false with
    | true => simp [nearest]
    | false =>
      have hnone : nearest = none ↔ ∀ a ∈ r.ancestors c, r.emitsConstructor a = false := by
        simp [nearest]
      rw [← hnone]
      simp [eq_comm]
  · cases (r.ancestors c).any fun a => a.showsFirst "constructor" false with
    | true => exact fun hne => absurd rfl hne
    | false => exact fun _ => rfl

/-- A configuration interface has no base although the parent has one, since its constructor is static or comes after a
hidden property. -/
theorem configBase?_misses_parent :
    let r := ofRecords [staticMaker, plainMaker]
    let r' := ofRecords [hiddenMaker, plainMaker]
    (∃ c ∈ r.classes, r.emitsConstructor c = true ∧ r.configBase? c = none ∧
      ∃ a ∈ r.ancestors c, r.emitsConstructor a = true) ∧
    ∃ c ∈ r'.classes, r'.emitsConstructor c = true ∧ r'.configBase? c = none ∧
      ∃ a ∈ r'.ancestors c, r'.emitsConstructor a = true := by
  decide +kernel

end Registry
end AmbientDecls
