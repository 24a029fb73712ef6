import AmbientDecls.Proofs.Data.Walk
import AmbientDecls.Proofs.Docs.Parents

/-! The way up from a class. It ends at a class without a parent and no name occurs on it twice, so the ancestors
of a class are the whole way, and the ancestors of an ancestor are the rest of it. -/

namespace AmbientDecls.Registry

open Links

variable {r : Registry} {records : List ClassRecord} {n : String} {l : List ClassRef}

/-- The classes on the way up from a name, each the parent of the one before, until one has none. -/
inductive WayUp (r : Registry) : String → List ClassRef → Prop
  | top {n : String} : parentIn r.parents n = none → WayUp r n []
  | up {n : String} {p : ClassRef} {l : List ClassRef} :
      parentIn r.parents n = some p → WayUp r p.name l → WayUp r n (p :: l)

theorem exists_wayUp_of_ends (h : Ends r.links n) : ∃ l, WayUp r n l := by
  induction h with
  | intro n _ ih =>
    cases hp : parentIn r.parents n with
    | none => exact ⟨[], .top hp⟩
    | some p =>
      obtain ⟨l, hl⟩ := ih p.name (step_parentLinks.mpr ⟨p, hp, rfl⟩)
      exact ⟨p :: l, .up hp hl⟩

namespace WayUp

theorem mem_classes (h : WayUp (ofRecords records) n l) {p : ClassRef} (hp : p ∈ l) :
    p ∈ (ofRecords records).classes := by
  induction h with
  | top _ => exact absurd hp (by simp)
  | up hparent _ ih =>
    rcases List.mem_cons.mp hp with rfl | hp
    · exact (mem_of_parentIn hparent).2
    · exact ih hp

theorem reaches (h : WayUp r n l) {p : ClassRef} (hp : p ∈ l) :
    Relation.TransGen (Step r.links) n p.name := by
  induction h with
  | top _ => exact absurd hp (by simp)
  | up hparent _ ih =>
    have hstep := step_parentLinks.mpr ⟨_, hparent, rfl⟩
    rcases List.mem_cons.mp hp with rfl | hp
    · exact Relation.TransGen.single hstep
    · exact Relation.TransGen.head hstep (ih hp)

theorem nodup (h : WayUp r n l) (hends : ∀ m, Ends r.links m) :
    (n :: l.map fun p => p.name).Nodup := by
  have hfresh : ∀ {n l}, WayUp r n l → n ∉ l.map fun p => p.name := by
    intro n l hl hmem
    obtain ⟨p, hp, rfl⟩ := List.mem_map.mp hmem
    exact (hends p.name).not_onCycle (hl.reaches hp)
  induction h with
  | top _ => exact List.nodup_singleton _
  | up hparent hl ih => exact List.nodup_cons.mpr ⟨hfresh (.up hparent hl), ih⟩

theorem walk (h : WayUp r n l) : Walk (parentIn r.parents) (fun p => p.name) n l := by
  induction h with
  | top hparent => exact .done hparent
  | up hparent _ ih => exact .on hparent ih

end WayUp

theorem chain_succ (r : Registry) (fuel : Nat) (n : String) : r.chain (fuel + 1) n =
    (parentIn r.parents n).elim [] fun p => p :: r.chain fuel p.name := by
  rw [chain]
  cases parentIn r.parents n <;> rfl

variable (records)

/-- The ancestors of a class are its whole way up. -/
theorem wayUp_ancestors (c : ClassRef) :
    WayUp (ofRecords records) c.name ((ofRecords records).ancestors c) := by
  obtain ⟨l, hl⟩ := exists_wayUp_of_ends (ends_links records c.name)
  have hnodup := (List.nodup_cons.mp (hl.nodup (ends_links records))).2
  have hsub : (l.map fun p => p.name) ⊆ (placed records).map fun c => c.name := by
    intro name hname
    obtain ⟨p, hp, rfl⟩ := List.mem_map.mp hname
    exact List.mem_map_of_mem (hl.mem_classes hp)
  have hlength := (hnodup.subperm hsub).length_le
  rw [List.length_map, List.length_map, ← size_ofRecords] at hlength
  have hchain : (ofRecords records).ancestors c = l :=
    hl.walk.search_eq (fun _ => rfl) (chain_succ _) hlength
  rw [hchain]
  exact hl

theorem nodup_ancestors (c : ClassRef) :
    (c.name :: ((ofRecords records).ancestors c).map fun p => p.name).Nodup :=
  (wayUp_ancestors records c).nodup (ends_links records)

variable {records}

theorem mem_classes_of_mem_ancestors {c a : ClassRef} (h : a ∈ (ofRecords records).ancestors c) :
    a ∈ (ofRecords records).classes :=
  (wayUp_ancestors records c).mem_classes h

theorem proper_of_mem_ancestors {c a : ClassRef} (h : a ∈ (ofRecords records).ancestors c) :
    (ofRecords records).Proper a :=
  proper_of_mem (mem_classes_of_mem_ancestors h)

theorem eq_ancestors_of_append {c a : ClassRef} {below above : List ClassRef}
    (h : (ofRecords records).ancestors c = below ++ a :: above) :
    above = (ofRecords records).ancestors a := by
  have hup := (wayUp_ancestors records c).walk
  rw [h] at hup
  exact hup.of_append.unique (wayUp_ancestors records a).walk

theorem mem_ancestors_trans {c a b : ClassRef} (ha : a ∈ (ofRecords records).ancestors c)
    (hb : b ∈ (ofRecords records).ancestors a) : b ∈ (ofRecords records).ancestors c := by
  obtain ⟨below, above, h⟩ := List.append_of_mem ha
  rw [← eq_ancestors_of_append h] at hb
  rw [h]
  exact List.mem_append_right below (List.mem_cons_of_mem a hb)

theorem mem_ancestors_of_below {c a t : ClassRef} {below above : List ClassRef}
    (h : (ofRecords records).ancestors c = below ++ t :: above) (ha : a ∈ below) :
    t ∈ (ofRecords records).ancestors a := by
  obtain ⟨pre, post, rfl⟩ := List.append_of_mem ha
  rw [List.append_assoc, List.cons_append] at h
  rw [← eq_ancestors_of_append h]
  exact List.mem_append_right post (List.mem_cons_self ..)

end AmbientDecls.Registry
