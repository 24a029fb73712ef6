import Mathlib.Logic.Relation

/-! Graphs in which every node has at most one link. Whoever follows the links from a node ends, or goes round one
directed cycle; that cycle is the only one within reach. Cutting a link ends every walk that came by it. -/

namespace AmbientDecls.Links

open Relation

variable {α : Type} {f g : α → Option α} {a b c : α}

def Step (f : α → Option α) (a b : α) : Prop := f a = some b

def Reaches (f : α → Option α) : α → α → Prop := ReflTransGen (Step f)

/-- Following the links from a node on the cycle leads back to the node. -/
def OnCycle (f : α → Option α) (a : α) : Prop := TransGen (Step f) a a

/-- Following the links from a node comes to an end. -/
def Ends (f : α → Option α) (a : α) : Prop := Acc (fun b a => Step f a b) a

def Within (f g : α → Option α) : Prop := ∀ a b, Step f a b → Step g a b

theorem Step.unique (hb : Step f a b) (hc : Step f a c) : b = c :=
  Option.some.inj (hb.symm.trans hc)

theorem Reaches.trans (hab : Reaches f a b) (hbc : Reaches f b c) : Reaches f a c :=
  ReflTransGen.trans hab hbc

theorem Reaches.tail (hab : Reaches f a b) (hbc : Step f b c) : Reaches f a c :=
  ReflTransGen.tail hab hbc

theorem Step.reaches (h : Step f a b) : Reaches f a b := ReflTransGen.single h

theorem Reaches.mono (hfg : Within f g) (h : Reaches f a b) : Reaches g a b :=
  ReflTransGen.mono hfg a b h

theorem OnCycle.mono (hfg : Within f g) (h : OnCycle f a) : OnCycle g a :=
  TransGen.mono hfg a a h

theorem Ends.mono (hfg : Within f g) (h : Ends g a) : Ends f a := by
  induction h with
  | intro a _ ih => exact Acc.intro a fun b hab => ih b (hfg a b hab)

theorem onCycle_iff : OnCycle f a ↔ ∃ b, Step f a b ∧ Reaches f b a := TransGen.head'_iff

theorem OnCycle.step (ha : OnCycle f a) (hab : Step f a b) : OnCycle f b ∧ Reaches f b a := by
  obtain ⟨c, hac, hca⟩ := onCycle_iff.mp ha
  obtain rfl := hab.unique hac
  exact ⟨TransGen.tail' hca hab, hca⟩

theorem OnCycle.reaches_back (ha : OnCycle f a) (hab : Reaches f a b) :
    OnCycle f b ∧ Reaches f b a := by
  induction hab with
  | refl => exact ⟨ha, ReflTransGen.refl⟩
  | tail _ hbc ih =>
    obtain ⟨hc, hcb⟩ := ih.1.step hbc
    exact ⟨hc, hcb.trans ih.2⟩

theorem Ends.not_onCycle (ha : Ends f a) : ¬ OnCycle f a := by
  induction ha with
  | intro a _ ih =>
    intro hcycle
    obtain ⟨b, hab, _⟩ := onCycle_iff.mp hcycle
    exact ih b hab (hcycle.step hab).1

theorem OnCycle.reaches_of_within (hfg : Within f g) (ha : OnCycle f a) (hab : Reaches g a b) :
    OnCycle f b := by
  induction hab with
  | refl => exact ha
  | tail _ hbc ih =>
    obtain ⟨d, hbd, _⟩ := onCycle_iff.mp ih
    obtain rfl := hbc.unique (hfg _ _ hbd)
    exact (ih.step hbd).1

section Cut

variable [DecidableEq α]

def cut (f : α → Option α) (x : α) : α → Option α := fun a => if a = x then none else f a

theorem cut_within (f : α → Option α) (x : α) : Within (cut f x) f := by
  intro a b h
  unfold Step cut at h
  split at h
  · exact absurd h (by simp)
  · exact h

theorem ends_cut_self (f : α → Option α) (x : α) : Ends (cut f x) x := by
  refine Acc.intro x fun b hb => ?_
  have hcut : cut f x x = none := if_pos rfl
  exact absurd (hcut.symm.trans hb) (by simp)

/-- A walk that came by the link ends where the link was. -/
theorem Reaches.ends_cut {x : α} (h : Reaches f a x) : Ends (cut f x) a := by
  induction h using ReflTransGen.head_induction_on with
  | refl => exact ends_cut_self f x
  | @head a b hab _ ih =>
    refine Acc.intro a fun c hac => ?_
    obtain rfl := hab.unique (cut_within f x a c hac)
    exact ih

end Cut
end AmbientDecls.Links
