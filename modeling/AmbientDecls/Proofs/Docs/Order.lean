import AmbientDecls.Proofs.Docs.Ancestors
import Mathlib.Data.List.Forall2

/-! Two registries of the same records in different orders. As long as no name is claimed by two records and no class
is above itself, both find the same record for a name, above a class and as a member of a class. -/

namespace AmbientDecls

open Links

/-- A search finds the same in another order, if no two elements are sought. -/
theorem find?_perm {α : Type} {p : α → Bool} {l l' : List α} (h : l.Perm l')
    (hunique : ∀ a ∈ l, ∀ b ∈ l, p a = true → p b = true → a = b) : l.find? p = l'.find? p := by
  cases hl : l.find? p with
  | none =>
    refine (List.find?_eq_none.mpr fun x hx => ?_).symm
    exact List.find?_eq_none.mp hl x (h.symm.subset hx)
  | some a =>
    have hmem := List.mem_of_find?_eq_some hl
    have ha := List.find?_some hl
    cases hl' : l'.find? p with
    | none => exact absurd ha (List.find?_eq_none.mp hl' a (h.subset hmem))
    | some b =>
      have hb := List.mem_of_find?_eq_some hl'
      rw [hunique a hmem b (h.symm.subset hb) ha (List.find?_some hl')]

theorem map_eq_of_rel {α β γ : Type} {R : α → β → Prop} {f : α → γ} {g : β → γ} {a : Option α}
    {b : Option β} (h : Option.Rel R a b) (hfg : ∀ a b, R a b → f a = g b) : a.map f = b.map g := by
  cases h with
  | none => rfl
  | some hab => exact congrArg some (hfg _ _ hab)

/-- Records in two orders, such that none claims a name of another and no class is above itself. -/
structure Reordered (records records' : List ClassRecord) : Prop where
  perm : records.Perm records'
  unambiguous : ∀ c ∈ records, ∀ d ∈ records, ∀ name,
    c.claims name = true → d.claims name = true → c = d
  acyclic : ∀ name, ¬ OnCycle (Registry.ofRecords records).rawLinks name

namespace Registry

/-- References to one record in two registries. -/
structure Alike (r r' : Registry) (c c' : ClassRef) : Prop where
  record : c.toClassRecord = c'.toClassRecord
  proper : r.Proper c
  proper' : r'.Proper c'

theorem Alike.name_eq {r r' : Registry} {c c' : ClassRef} (h : Alike r r' c c') : c.name = c'.name :=
  congrArg ClassRecord.name h.record

theorem rel_alike {r r' : Registry} {c c' : Option ClassRef}
    (h : c.map (·.toClassRecord) = c'.map (·.toClassRecord)) (hc : ∀ d, c = some d → d ∈ r.classes)
    (hc' : ∀ d, c' = some d → d ∈ r'.classes) : Option.Rel (Alike r r') c c' := by
  cases c with
  | none =>
    cases c' with
    | none => exact .none
    | some d' => cases h
  | some d =>
    cases c' with
    | none => cases h
    | some d' =>
      exact .some ⟨Option.some.inj h, proper_of_mem (hc d rfl), proper_of_mem (hc' d' rfl)⟩

variable {records records' : List ClassRecord}

theorem map_record_placed (records : List ClassRecord) :
    (placed records).map (·.toClassRecord) = records := by
  rw [placed, List.map_map]
  exact List.zipIdx_map_fst 0 records

/-- The last record with a property is the same one in both orders, if no other has the property. -/
theorem last?_alike (h : Reordered records records') {p : ClassRecord → Bool}
    (hp : ∀ c ∈ records, ∀ d ∈ records, p c = true → p d = true → c = d) :
    Option.Rel (Alike (ofRecords records) (ofRecords records'))
      ((placed records).reverse.find? fun c => p c.toClassRecord)
      ((placed records').reverse.find? fun c => p c.toClassRecord) := by
  have hrecord : ∀ records : List ClassRecord,
      ((placed records).reverse.find? fun c => p c.toClassRecord).map (·.toClassRecord) =
        records.reverse.find? p := by
    intro records
    conv_rhs => rw [← map_record_placed records, ← List.map_reverse, List.find?_map]
    rfl
  have hmem : ∀ {records c}, ((placed records).reverse.find? fun c => p c.toClassRecord) = some c →
      c ∈ placed records := fun hc => List.mem_reverse.mp (List.mem_of_find?_eq_some hc)
  -- references differ in their places, so it is the records found that are compared
  refine rel_alike ?_ (fun _ => hmem) (fun _ => hmem)
  rw [hrecord, hrecord]
  have hreverse : records.reverse.Perm records'.reverse :=
    (List.reverse_perm _).trans (h.perm.trans (List.reverse_perm _).symm)
  exact find?_perm hreverse fun a ha b hb =>
    hp a (List.mem_reverse.mp ha) b (List.mem_reverse.mp hb)

theorem find?_alike (h : Reordered records records') (name : String) :
    Option.Rel (Alike (ofRecords records) (ofRecords records')) ((ofRecords records).find? name)
      ((ofRecords records').find? name) := by
  rw [find?_ofRecords, find?_ofRecords]
  exact last?_alike h (p := fun c => c.claims name) fun c hc d hd =>
    h.unambiguous c hc d hd name

theorem lastNamed?_alike (h : Reordered records records') (name : String) :
    Option.Rel (Alike (ofRecords records) (ofRecords records'))
      ((ofRecords records).lastNamed? name) ((ofRecords records').lastNamed? name) := by
  refine last?_alike h (p := fun c => c.name = name) fun c hc d hd hname hname' => ?_
  have hclaims : ∀ c : ClassRecord, decide (c.name = name) = true → c.claims name = true :=
    fun c hc => Bool.or_eq_true_iff.mpr (Or.inl hc)
  exact h.unambiguous c hc d hd name (hclaims c hname) (hclaims d hname')

theorem documented?_alike (h : Reordered records records') (name : String) :
    Option.Rel (Alike (ofRecords records) (ofRecords records'))
      ((ofRecords records).documented? name) ((ofRecords records').documented? name) := by
  have hlast := lastNamed?_alike h name
  unfold documented?
  generalize (ofRecords records).lastNamed? name = c at hlast ⊢
  generalize (ofRecords records').lastNamed? name = c' at hlast ⊢
  cases hlast with
  | none => exact .none
  | some hc =>
    rw [Option.bind_some, Option.bind_some, hc.record]
    split
    · exact .none
    · exact find?_alike h _

theorem rawLinks_reordered (h : Reordered records records') :
    (ofRecords records').rawLinks = (ofRecords records).rawLinks := by
  funext name
  exact (map_eq_of_rel (documented?_alike h name) fun _ _ => Alike.name_eq).symm

theorem cuts_eq_nil_iff :
    (ofRecords records).cuts = [] ↔ ∀ name, ¬ OnCycle (ofRecords records).rawLinks name := by
  rw [List.eq_nil_iff_forall_not_mem]
  constructor
  · intro hnone name hcycle
    obtain ⟨cut, hcut, _⟩ := exists_cut records hcycle
    exact hnone cut hcut
  · exact fun h cut hcut => h _ (cut_onCycle records hcut).2

/-- Neither registry has to cut a link. -/
theorem cuts_reordered (h : Reordered records records') :
    (ofRecords records).cuts = [] ∧ (ofRecords records').cuts = [] :=
  ⟨cuts_eq_nil_iff.mpr h.acyclic, cuts_eq_nil_iff.mpr (rawLinks_reordered h ▸ h.acyclic)⟩

theorem parentIn_alike (h : Reordered records records') (name : String) :
    Option.Rel (Alike (ofRecords records) (ofRecords records'))
      (parentIn (ofRecords records).parents name) (parentIn (ofRecords records').parents name) := by
  obtain ⟨hnone, hnone'⟩ := cuts_reordered h
  rw [parentIn_eq, parentIn_eq, hnone, hnone']
  exact documented?_alike h name

theorem size_reordered (h : Reordered records records') :
    (ofRecords records).size = (ofRecords records').size := by
  rw [size_ofRecords, size_ofRecords, placed, placed, List.length_map, List.length_map,
    List.length_zipIdx, List.length_zipIdx, h.perm.length_eq]

theorem Alike.member?_eq {c c' : ClassRef} (h : Alike (ofRecords records) (ofRecords records') c c') :
    (ofRecords records).member? c = (ofRecords records').member? c' := by
  funext name kinds side
  rw [Registry.member?_eq h.proper, Registry.member?_eq h.proper', h.record]

theorem chain_alike (h : Reordered records records') (fuel : Nat) (name : String) :
    List.Forall₂ (Alike (ofRecords records) (ofRecords records'))
      ((ofRecords records).chain fuel name) ((ofRecords records').chain fuel name) := by
  induction fuel generalizing name with
  | zero => exact .nil
  | succ fuel ih =>
    have hparent := parentIn_alike h name
    unfold chain
    generalize parentIn (ofRecords records).parents name = p at hparent ⊢
    generalize parentIn (ofRecords records').parents name = p' at hparent ⊢
    cases hparent with
    | none => exact .nil
    | some hp => exact .cons hp (hp.name_eq ▸ ih _)

theorem ancestors_alike (h : Reordered records records') {c c' : ClassRef} (hname : c.name = c'.name) :
    List.Forall₂ (Alike (ofRecords records) (ofRecords records'))
      ((ofRecords records).ancestors c) ((ofRecords records').ancestors c') := by
  unfold ancestors
  rw [size_reordered h, hname]
  exact chain_alike h _ _

/-- Registries that find the same records: for a name, above a class, and as a member of a class. -/
structure Matching (r r' : Registry) : Prop where
  size : r.size = r'.size
  find : ∀ name, Option.Rel (Alike r r') (r.find? name) (r'.find? name)
  parent : ∀ {c c' : ClassRef}, c.name = c'.name →
    Option.Rel (Alike r r') (r.parent? c) (r'.parent? c')
  ancestors : ∀ {c c' : ClassRef}, c.name = c'.name →
    List.Forall₂ (Alike r r') (r.ancestors c) (r'.ancestors c')
  member : ∀ {c c' : ClassRef}, Alike r r' c c' → r.member? c = r'.member? c'

theorem matching_reordered (h : Reordered records records') :
    Matching (ofRecords records) (ofRecords records') where
  size := size_reordered h
  find := find?_alike h
  parent := by
    intro c c' hname
    rw [parent?, parent?, hname]
    exact parentIn_alike h c'.name
  ancestors := ancestors_alike h
  member := Alike.member?_eq

end Registry

end AmbientDecls
