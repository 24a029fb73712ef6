import AmbientDecls.Docs.Loading
import AmbientDecls.Proofs.Docs.Ancestors
import AmbientDecls.Proofs.Emit.Body

/-! The hierarchy of classes, in the registry and as the declarations spell it. It has no cycles, and it is the
documented one with exactly one link of every cycle left out. -/

namespace AmbientDecls

open Links

namespace Emitter

/-- The declaration of a class with the first name extends the class with the second. -/
def Extends (e : Emitter) (a b : String) : Prop :=
  ∃ c ∈ e.registry.classes, c.name = a ∧ ∃ s, ((e.classDecl c).run s).1.base = some b

theorem Extends.step {e : Emitter} {a b : String} (h : e.Extends a b) :
    Step e.registry.links a b := by
  obtain ⟨c, _, rfl, s, hbase⟩ := h
  rw [base_classDecl, extends?] at hbase
  split at hbase
  · exact absurd hbase (by simp)
  · exact hbase

end Emitter

/-- What is logged of a link that was cut. -/
def CutLink.warning (cut : CutLink) : LogRecord :=
  ⟨.warn, .registry, "Inheritance cycle at " ++ cut.child ++ "; detaching it from " ++ cut.parent⟩

/-- Making the registry of some records changes nothing but the log, by one warning for each cut. -/
theorem Act.register_apply (records : List ClassRecord) (w : World) :
    Act.register records w = (.ok (Registry.ofRecords records),
      { w with log := w.log ++ (Registry.ofRecords records).cuts.map CutLink.warning }) := by
  have hlog : ∀ (cuts : List CutLink) (w : World),
      (cuts.forM fun cut => Act.log .warn .registry
        ("Inheritance cycle at " ++ cut.child ++ "; detaching it from " ++ cut.parent) : Act Unit) w =
        (.ok (), { w with log := w.log ++ cuts.map CutLink.warning }) := by
    intro cuts
    induction cuts with
    | nil =>
      intro w
      rw [List.map_nil, List.append_nil]
      rfl
    | cons cut cuts ih =>
      intro w
      rw [List.map_cons, List.append_cons]
      exact ih { w with log := w.log ++ [cut.warning] }
  unfold Act.register
  rw [Act.bind_apply, hlog]
  rfl

namespace Registry

variable (records : List ClassRecord)

theorem existsUnique_cleared {n : String} (h : OnCycle (ofRecords records).rawLinks n) :
    ∃! m, Reaches (ofRecords records).rawLinks n m ∧
      parentIn (ofRecords records).parents m = none := by
  have hcleared : ∀ m, Reaches (ofRecords records).rawLinks n m →
      parentIn (ofRecords records).parents m = none →
      ∃ cut ∈ (ofRecords records).cuts, cut.child = m := by
    intro m hm hnone
    rw [parentIn_eq] at hnone
    split at hnone
    · rename_i hmem
      exact List.mem_map.mp hmem
    · obtain ⟨p, hp, _⟩ := onCycle_iff.mp (h.reaches_back hm).1
      obtain ⟨q, hq, _⟩ := step_parentLinks.mp hp
      exact absurd (hnone.symm.trans hq) (by simp)
  obtain ⟨cut, hcut, hreach⟩ := exists_cut records h
  refine ⟨cut.child, ⟨hreach, ?_⟩, ?_⟩
  · rw [parentIn_eq, if_pos (List.mem_map_of_mem hcut)]
  · rintro m ⟨hm, hnone⟩
    obtain ⟨other, hother, rfl⟩ := hcleared m hm hnone
    rw [cut_unique records hother hcut ((h.reaches_back hm).2.trans hreach)]

theorem existsUnique_cut {n : String} (h : OnCycle (ofRecords records).rawLinks n) :
    ∃! cut, cut ∈ (ofRecords records).cuts ∧
      Reaches (ofRecords records).rawLinks n cut.child := by
  obtain ⟨cut, hcut, hreach⟩ := exists_cut records h
  refine ⟨cut, ⟨hcut, hreach⟩, ?_⟩
  rintro other ⟨hother, hreach'⟩
  exact cut_unique records hother hcut ((h.reaches_back hreach').2.trans hreach)

theorem parentIn_eq_or_onCycle (n : String) :
    parentIn (ofRecords records).parents n = (ofRecords records).documented? n ∨
      OnCycle (ofRecords records).rawLinks n ∧
        parentIn (ofRecords records).parents n = none := by
  rw [parentIn_eq]
  split
  · rename_i hmem
    obtain ⟨cut, hcut, rfl⟩ := List.mem_map.mp hmem
    exact Or.inr ⟨(cut_onCycle records hcut).2, rfl⟩
  · exact Or.inl rfl

/-- The parents of a registry form no cycle, so the ancestors of any class end at a class without a parent and no
name is repeated on the way; neither do the clauses that declarations extend others by. They are the
documented parents except that on every cycle of these one link is missing. For each cycle one warning is
logged, about that link. -/
theorem acyclic_with_one_cut_per_cycle (config : EmitterConfig) :
    let r := ofRecords records
    (∀ n, ¬ OnCycle r.links n) ∧
    (∀ c : ClassRef, r.WayUp c.name (r.ancestors c) ∧
      (c.name :: (r.ancestors c).map fun p => p.name).Nodup) ∧
    (∀ n, ¬ Relation.TransGen (Emitter.Extends ⟨r, config⟩) n n) ∧
    (∀ n, parentIn r.parents n = r.documented? n ∨
      OnCycle r.rawLinks n ∧ parentIn r.parents n = none) ∧
    (∀ n, OnCycle r.rawLinks n →
      ∃! m, Reaches r.rawLinks n m ∧ parentIn r.parents m = none) ∧
    (∀ n, OnCycle r.rawLinks n → ∃! cut, cut ∈ r.cuts ∧ Reaches r.rawLinks n cut.child) ∧
    (∀ w : World, Act.register records w =
      (.ok r, { w with log := w.log ++ r.cuts.map CutLink.warning })) ∧
    r.cuts.Nodup ∧
    (∀ cut ∈ r.cuts, OnCycle r.rawLinks cut.child ∧ Step r.rawLinks cut.child cut.parent ∧
      parentIn r.parents cut.child = none) := by
  intro r
  have hacyclic : ∀ n, ¬ OnCycle r.links n := fun n => (ends_links records n).not_onCycle
  refine ⟨hacyclic, fun c => ⟨wayUp_ancestors records c, nodup_ancestors records c⟩, ?_,
    parentIn_eq_or_onCycle records, fun n => existsUnique_cleared records,
    fun n => existsUnique_cut records, Act.register_apply records, nodup_cuts records, ?_⟩
  · intro n hn
    exact hacyclic n (Relation.TransGen.mono (fun a b h => h.step) n n hn)
  · intro cut hcut
    obtain ⟨hstep, hcycle⟩ := cut_onCycle records hcut
    refine ⟨hcycle, hstep, ?_⟩
    rw [parentIn_eq, if_pos (List.mem_map_of_mem hcut)]

end Registry
end AmbientDecls
