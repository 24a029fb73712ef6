import AmbientDecls.Proofs.Docs.Links
import AmbientDecls.Proofs.Docs.Lookup
import Mathlib.Data.List.Nodup
import Mathlib.Data.List.Perm.Subperm
import Mathlib.Data.List.Pairwise

/-! The parents of a registry. Every walk up from a class ends, and of the parents that the records document exactly
one link of every cycle is missing; it lies on the cycle, and one cut is reported for it. -/

namespace AmbientDecls

open Links

def parentLinks (parents : String → Option ClassRef) (name : String) : Option String :=
  (parents name).map fun p => p.name

namespace Registry

/-- The parent that the last record of a name asks for, before any link is cut. -/
def documented? (r : Registry) (name : String) : Option ClassRef :=
  (r.lastNamed? name).bind fun c => if c.parent.isEmpty then none else r.find? c.parent

theorem documented?_eq_some {records : List ClassRecord} {name : String} {p : ClassRef}
    (h : (ofRecords records).documented? name = some p) :
    (∃ c ∈ (ofRecords records).classes, c.name = name) ∧ p ∈ (ofRecords records).classes := by
  obtain ⟨c, hc, hp⟩ := Option.bind_eq_some_iff.mp h
  split at hp
  · exact absurd hp (by simp)
  · have hname := lastNamed?_eq_some hc
    exact ⟨⟨c, hname.1, hname.2⟩, mem_classes_of_find? hp⟩

section Walk

variable {parents : Table (Option ClassRef)}

theorem step_parentLinks {parents : String → Option ClassRef} {a b : String} :
    Step (parentLinks parents) a b ↔ ∃ p, parents a = some p ∧ p.name = b := by
  simp [Step, parentLinks]

/-- A closing link is on a cycle that the walk runs into. -/
theorem closingLink_eq_some {fuel : Nat} {seen : List String} {child : String} {cut : CutLink}
    (hseen : ∀ x ∈ seen, Reaches (parentLinks (parentIn parents)) x child)
    (h : closingLink parents fuel seen child = some cut) :
    Step (parentLinks (parentIn parents)) cut.child cut.parent ∧
      Reaches (parentLinks (parentIn parents)) child cut.child ∧
      Reaches (parentLinks (parentIn parents)) cut.parent cut.child := by
  induction fuel generalizing seen child with
  | zero => simp [closingLink] at h
  | succ fuel ih =>
    unfold closingLink at h
    cases hp : parentIn parents child with
    | none => simp [hp] at h
    | some p =>
      have hstep : Step (parentLinks (parentIn parents)) child p.name :=
        step_parentLinks.mpr ⟨p, hp, rfl⟩
      rw [hp] at h
      simp only at h
      split at h
      · rename_i hmem
        obtain rfl := Option.some.inj h
        exact ⟨hstep, Relation.ReflTransGen.refl, hseen p.name (by simpa using hmem)⟩
      · have hseen' : ∀ x ∈ p.name :: seen,
            Reaches (parentLinks (parentIn parents)) x p.name := by
          intro x hx
          rcases List.mem_cons.mp hx with rfl | hx
          · exact Relation.ReflTransGen.refl
          · exact (hseen x hx).tail hstep
        obtain ⟨hcut, hreach, hback⟩ := ih hseen' h
        exact ⟨hcut, hstep.reaches.trans hreach, hback⟩

/-- Without a closing link the walk ends. The names seen are distinct, so the fuel cannot run out. -/
theorem closingLink_eq_none (names : List String)
    (hnames : ∀ n p, parentIn parents n = some p → p.name ∈ names)
    {fuel : Nat} {seen : List String} {child : String}
    (hnodup : seen.Nodup) (hsub : seen ⊆ names) (hfuel : names.length < fuel + seen.length)
    (h : closingLink parents fuel seen child = none) :
    Ends (parentLinks (parentIn parents)) child := by
  induction fuel generalizing seen child with
  | zero =>
    have hle := (hnodup.subperm hsub).length_le
    omega
  | succ fuel ih =>
    unfold closingLink at h
    refine Acc.intro child fun b hb => ?_
    obtain ⟨p, hp, rfl⟩ := step_parentLinks.mp hb
    rw [hp] at h
    simp only at h
    split at h
    · exact absurd h (by simp)
    · rename_i hmem
      have hfresh : p.name ∉ seen := by simpa using hmem
      refine ih (List.nodup_cons.mpr ⟨hfresh, hnodup⟩) ?_ ?_ h
      · exact List.cons_subset.mpr ⟨hnames child p hp, hsub⟩
      · simp only [List.length_cons]
        omega

theorem parentIn_set (t : Table (Option ClassRef)) (x n : String) :
    parentIn (t.set x none) n = if n = x then none else parentIn t n := by
  rw [parentIn, Table.get?_set]
  split
  · rfl
  · rfl

end Walk

/-- Parents with some links cut, against the documented ones: what holds after the walks from the classes
in `done`. -/
structure CutsOf (documented : String → Option ClassRef) (done : List ClassRef)
    (state : Table (Option ClassRef) × List CutLink) : Prop where
  parents : ∀ n, parentIn state.1 n =
    if n ∈ state.2.map (·.child) then none else documented n
  onCycle : ∀ cut ∈ state.2, Step (parentLinks documented) cut.child cut.parent ∧
    Reaches (parentLinks documented) cut.parent cut.child
  apart : state.2.Pairwise fun a b => ¬ Reaches (parentLinks documented) a.child b.child
  ends : ∀ c ∈ done, Ends (parentLinks (parentIn state.1)) c.name

namespace CutsOf

variable {documented : String → Option ClassRef} {done : List ClassRef}
  {state : Table (Option ClassRef) × List CutLink}

theorem within (h : CutsOf documented done state) :
    Within (parentLinks (parentIn state.1)) (parentLinks documented) := by
  intro a b hab
  obtain ⟨p, hp, rfl⟩ := step_parentLinks.mp hab
  rw [h.parents] at hp
  split at hp
  · exact absurd hp (by simp)
  · exact step_parentLinks.mpr ⟨p, hp, rfl⟩

theorem cut (h : CutsOf documented done state) {c : ClassRef} {cut : CutLink}
    (hcut : Step (parentLinks (parentIn state.1)) cut.child cut.parent)
    (hreach : Reaches (parentLinks (parentIn state.1)) c.name cut.child)
    (hback : Reaches (parentLinks (parentIn state.1)) cut.parent cut.child) :
    CutsOf documented (c :: done) (state.1.set cut.child none, state.2 ++ [cut]) := by
  have hlinks : parentLinks (parentIn (state.1.set cut.child none)) =
      Links.cut (parentLinks (parentIn state.1)) cut.child := by
    funext n
    rw [parentLinks, parentIn_set, Links.cut]
    split
    · rfl
    · rfl
  have hcycle : OnCycle (parentLinks (parentIn state.1)) cut.child :=
    onCycle_iff.mpr ⟨cut.parent, hcut, hback⟩
  constructor
  · intro n
    simp only [parentIn_set, h.parents n, List.map_append, List.mem_append, List.map_cons,
      List.map_nil, List.mem_singleton]
    by_cases hn : n = cut.child <;> simp [hn]
  · intro x hx
    rcases List.mem_append.mp hx with hx | hx
    · exact h.onCycle x hx
    · obtain rfl := List.mem_singleton.mp hx
      exact ⟨h.within _ _ hcut, hback.mono h.within⟩
  · refine List.pairwise_append.mpr ⟨h.apart, List.pairwise_singleton .., ?_⟩
    intro a ha b hb hab
    obtain rfl := List.mem_singleton.mp hb
    -- an earlier cut within reach would lie on the cycle that is still whole
    have hdoc := onCycle_iff.mpr ⟨a.parent, h.onCycle a ha⟩
    have hba := (hdoc.reaches_back hab).2
    obtain ⟨p, hp, _⟩ := onCycle_iff.mp (hcycle.reaches_of_within h.within hba)
    obtain ⟨q, hq, _⟩ := step_parentLinks.mp hp
    rw [h.parents, if_pos (List.mem_map_of_mem ha)] at hq
    exact absurd hq (by simp)
  · intro x hx
    rw [hlinks]
    rcases List.mem_cons.mp hx with rfl | hx
    · exact hreach.ends_cut
    · exact (h.ends x hx).mono (cut_within _ _)

theorem step (h : CutsOf documented done state) {names : List String}
    (hnames : ∀ n p, documented n = some p → p.name ∈ names) {c : ClassRef}
    (hc : c.name ∈ names) {size : Nat} (hsize : names.length ≤ size) :
    CutsOf documented (c :: done) (cutFrom size state c) := by
  unfold cutFrom
  cases hclosing : closingLink state.1 (size + 1) [c.name] c.name with
  | some x =>
    have hself : ∀ y ∈ [c.name], Reaches (parentLinks (parentIn state.1)) y c.name := by
      intro y hy
      rw [List.mem_singleton.mp hy]
      exact Relation.ReflTransGen.refl
    -- the walk ran into a cycle, and its closing link is cut
    obtain ⟨hcut, hreach, hback⟩ := closingLink_eq_some hself hclosing
    exact h.cut hcut hreach hback
  | none =>
    -- the walk ended, so nothing is cut
    refine ⟨h.parents, h.onCycle, h.apart, fun x hx => ?_⟩
    rcases List.mem_cons.mp hx with rfl | hx
    · refine closingLink_eq_none names ?_ (List.nodup_singleton _) ?_ ?_ hclosing
      · intro n p hp
        rw [h.parents] at hp
        split at hp
        · exact absurd hp (by simp)
        · exact hnames n p hp
      · exact List.cons_subset.mpr ⟨hc, List.nil_subset _⟩
      · simp only [List.length_singleton]
        omega
    · exact h.ends x hx

theorem run {names : List String} (hnames : ∀ n p, documented n = some p → p.name ∈ names)
    {size : Nat} (hsize : names.length ≤ size) {cs : List ClassRef}
    (hcs : ∀ c ∈ cs, c.name ∈ names) (h : CutsOf documented done state) :
    CutsOf documented (cs.reverse ++ done) (cs.foldl (cutFrom size) state) := by
  induction cs generalizing done state with
  | nil => exact h
  | cons c cs ih =>
    rw [List.foldl_cons, List.reverse_cons, List.append_assoc]
    have hstep := h.step hnames (hcs c (List.mem_cons_self ..)) hsize
    exact ih (fun d hd => hcs d (List.mem_cons_of_mem _ hd)) hstep

end CutsOf

variable (records : List ClassRecord)

/-- The construction keeps the documented parents up to one cut for each cycle. -/
theorem cutsOf_ofRecords :
    CutsOf (ofRecords records).documented? ((placed records).reverse ++ [])
      ((ofRecords records).parents, (ofRecords records).cuts) := by
  let names := (placed records).map fun c => c.name
  have hnames : ∀ n p, (ofRecords records).documented? n = some p → p.name ∈ names := by
    intro n p hp
    exact List.mem_map_of_mem (documented?_eq_some hp).2
  have hlength : names.length ≤ (placed records).length := by
    simp [names]
  refine CutsOf.run hnames hlength (fun c hc => List.mem_map_of_mem hc) ⟨?_, ?_, ?_, ?_⟩
  · intro n
    have htable := Table.get?_foldl_set (fun c : ClassRef => c.name)
      (documentedParent (ofRecords records).names) (placed records) n
    rw [if_neg (by simp)]
    refine (congrArg Option.join htable).trans ?_
    change (((ofRecords records).lastNamed? n).map _).join = _
    rw [documented?]
    cases (ofRecords records).lastNamed? n <;> rfl
  · intro cut hcut
    exact absurd hcut (by simp)
  · exact List.Pairwise.nil
  · intro c hc
    exact absurd hc (by simp)

def links (r : Registry) : String → Option String := parentLinks (parentIn r.parents)

/-- The parents as the records document them, by the name of the child. -/
def rawLinks (r : Registry) : String → Option String := parentLinks r.documented?

theorem parentIn_eq (n : String) :
    parentIn (ofRecords records).parents n =
      if n ∈ (ofRecords records).cuts.map (·.child) then none
      else (ofRecords records).documented? n :=
  (cutsOf_ofRecords records).parents n

theorem mem_of_parentIn {records : List ClassRecord} {n : String} {p : ClassRef}
    (h : parentIn (ofRecords records).parents n = some p) :
    (∃ c ∈ (ofRecords records).classes, c.name = n) ∧ p ∈ (ofRecords records).classes := by
  rw [parentIn_eq] at h
  split at h
  · exact absurd h (by simp)
  · exact documented?_eq_some h

theorem ends_links (n : String) : Ends (ofRecords records).links n := by
  refine Acc.intro n fun m hm => ?_
  obtain ⟨p, hp, _⟩ := step_parentLinks.mp hm
  obtain ⟨⟨c, hc, rfl⟩, _⟩ := mem_of_parentIn hp
  have hends := (cutsOf_ofRecords records).ends c (by simpa [classes_ofRecords] using hc)
  exact hends.inv hm

theorem cut_onCycle {cut : CutLink} (h : cut ∈ (ofRecords records).cuts) :
    Step (ofRecords records).rawLinks cut.child cut.parent ∧
      OnCycle (ofRecords records).rawLinks cut.child := by
  obtain ⟨hstep, hback⟩ := (cutsOf_ofRecords records).onCycle cut h
  exact ⟨hstep, onCycle_iff.mpr ⟨cut.parent, hstep, hback⟩⟩

theorem nodup_cuts : (ofRecords records).cuts.Nodup := by
  refine (cutsOf_ofRecords records).apart.imp fun {a b} hab heq => hab ?_
  rw [heq]
  exact Relation.ReflTransGen.refl

theorem cut_unique {a b : CutLink} (ha : a ∈ (ofRecords records).cuts)
    (hb : b ∈ (ofRecords records).cuts)
    (hab : Reaches (ofRecords records).rawLinks a.child b.child) : a = b := by
  by_contra hne
  -- both lie on one cycle, so each reaches the other
  have hba := ((cut_onCycle records ha).2.reaches_back hab).2
  have hapart : (ofRecords records).cuts.Pairwise fun a b =>
      ¬ (Reaches (ofRecords records).rawLinks a.child b.child ∧
        Reaches (ofRecords records).rawLinks b.child a.child) :=
    (cutsOf_ofRecords records).apart.imp fun {a b} h hboth => h hboth.1
  have hsymm : Std.Symm fun a b : CutLink =>
      ¬ (Reaches (ofRecords records).rawLinks a.child b.child ∧
        Reaches (ofRecords records).rawLinks b.child a.child) :=
    ⟨fun a b h hboth => h hboth.symm⟩
  exact hapart.forall ha hb hne ⟨hab, hba⟩

theorem exists_cut {n : String} (h : OnCycle (ofRecords records).rawLinks n) :
    ∃ cut ∈ (ofRecords records).cuts, Reaches (ofRecords records).rawLinks n cut.child := by
  by_contra hnone
  -- without a cut on it the whole cycle is left
  have hkept : ∀ m, Reaches (ofRecords records).rawLinks n m →
      Reaches (ofRecords records).links n m := by
    intro m hm
    induction hm with
    | refl => exact Relation.ReflTransGen.refl
    | @tail b c hnb hbc ih =>
      have hb : b ∉ (ofRecords records).cuts.map (·.child) := by
        intro hmem
        obtain ⟨cut, hcut, rfl⟩ := List.mem_map.mp hmem
        exact hnone ⟨cut, hcut, hnb⟩
      refine ih.tail ?_
      obtain ⟨p, hp, hpc⟩ := step_parentLinks.mp hbc
      exact step_parentLinks.mpr ⟨p, by rw [parentIn_eq, if_neg hb, hp], hpc⟩
  obtain ⟨m, hnm, hmn⟩ := Relation.TransGen.tail'_iff.mp h
  have hcut : m ∉ (ofRecords records).cuts.map (·.child) := by
    intro hmem
    obtain ⟨cut, hcut, rfl⟩ := List.mem_map.mp hmem
    exact hnone ⟨cut, hcut, hnm⟩
  obtain ⟨p, hp, hpn⟩ := step_parentLinks.mp hmn
  have hlast : Step (ofRecords records).links m n :=
    step_parentLinks.mpr ⟨p, by rw [parentIn_eq, if_neg hcut, hp], hpn⟩
  exact (ends_links records n).not_onCycle (Relation.TransGen.tail' (hkept m hnm) hlast)

end Registry
end AmbientDecls
