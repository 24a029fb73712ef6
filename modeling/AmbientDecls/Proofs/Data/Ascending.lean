import Mathlib.Data.List.Basic
import Mathlib.Data.List.Nodup
import Mathlib.Data.List.Perm.Basic

/-! Distinct names in ascending order, and tables in which a name has one value: both depend on nothing but what is in
them, not on the order it came in. -/

namespace AmbientDecls

theorem nodup_eraseDups (names : List String) : names.eraseDups.Nodup := by
  cases names with
  | nil => exact List.nodup_nil
  | cons name names =>
    rw [List.eraseDups_cons]
    refine List.nodup_cons.mpr ⟨?_, nodup_eraseDups _⟩
    simp
termination_by names.length
decreasing_by
  exact Nat.lt_succ_of_le (List.length_filter_le _ _)

theorem pairwise_mergeSort_le (names : List String) :
    (names.mergeSort fun a b => !(b < a)).Pairwise (· ≤ ·) := by
  have hsorted : (names.mergeSort fun a b => !(b < a)).Pairwise
      fun a b => (!decide (b < a)) = true := by
    refine List.pairwise_mergeSort (fun a b c hab hbc => ?_) (fun a b => ?_) names
    · simp only [Bool.not_eq_true', decide_eq_false_iff_not, String.not_lt] at hab hbc ⊢
      exact String.le_trans hab hbc
    · simp only [Bool.or_eq_true, Bool.not_eq_true', decide_eq_false_iff_not, String.not_lt]
      exact String.le_total a b
  refine hsorted.imp fun {a b} hab => ?_
  simpa only [Bool.not_eq_true', decide_eq_false_iff_not, String.not_lt] using hab

/-- Distinct names in ascending order ascend strictly. -/
theorem pairwise_mergeSort_lt {names : List String} (h : names.Nodup) :
    (names.mergeSort fun a b => !(b < a)).Pairwise (· < ·) := by
  have hnodup : (names.mergeSort fun a b => !(b < a)).Nodup := (List.mergeSort_perm _ _).nodup_iff.mpr h
  refine (pairwise_mergeSort_le names).imp₂ (fun a b hle hne => ?_) hnodup
  exact String.not_le.mp fun hge => hne (String.le_antisymm hle hge)

theorem pairwise_ascending_lt (names : List String) :
    (names.eraseDups.mergeSort fun a b => !(b < a)).Pairwise (· < ·) :=
  pairwise_mergeSort_lt (nodup_eraseDups names)

/-- A list that ascends strictly is told by its members. -/
theorem eq_of_ascending {names names' : List String} (h : names.Pairwise (· < ·)) (h' : names'.Pairwise (· < ·))
    (hmem : ∀ name, name ∈ names ↔ name ∈ names') : names = names' := by
  have hnodup : ∀ {l : List String}, l.Pairwise (· < ·) → l.Nodup := by
    intro l hl
    refine hl.imp fun {a b} hlt => ?_
    rintro rfl
    exact String.lt_irrefl a hlt
  refine List.Perm.eq_of_pairwise (fun a b _ _ hab hba => absurd hab (String.lt_asymm hba)) h h' ?_
  exact (List.perm_ext_iff_of_nodup (hnodup h) (hnodup h')).mpr hmem

/-- The distinct names of two lists with the same members are in the same ascending order. -/
theorem ascending_congr {names names' : List String} (h : ∀ name, name ∈ names ↔ name ∈ names') :
    (names.eraseDups.mergeSort fun a b => !(b < a)) =
      names'.eraseDups.mergeSort fun a b => !(b < a) := by
  refine eq_of_ascending (pairwise_ascending_lt names) (pairwise_ascending_lt names') fun name => ?_
  rw [List.mem_mergeSort, List.mem_mergeSort, List.mem_eraseDups, List.mem_eraseDups, h]

/-- A table with one value for a name finds what it holds. -/
theorem lookup_eq_some_iff_mem {α : Type} {table : List (String × α)}
    (hunique : ∀ name a b, (name, a) ∈ table → (name, b) ∈ table → a = b) {name : String} {a : α} :
    table.lookup name = some a ↔ (name, a) ∈ table := by
  constructor
  · intro h
    obtain ⟨before, after, rfl, _⟩ := List.lookup_eq_some_iff.mp h
    exact List.mem_append_right before (List.mem_cons_self ..)
  · intro h
    cases hlookup : table.lookup name with
    | none =>
      have hne : (name != name) = true := List.lookup_eq_none_iff.mp hlookup (name, a) h
      exact absurd hne (by simp)
    | some b =>
      obtain ⟨before, after, rfl, _⟩ := List.lookup_eq_some_iff.mp hlookup
      rw [hunique name a b h (List.mem_append_right before (List.mem_cons_self ..))]

theorem lookup_congr {α : Type} {table table' : List (String × α)}
    (h : ∀ e, e ∈ table ↔ e ∈ table')
    (hunique : ∀ name a b, (name, a) ∈ table → (name, b) ∈ table → a = b) (name : String) :
    table.lookup name = table'.lookup name := by
  have hunique' : ∀ name a b, (name, a) ∈ table' → (name, b) ∈ table' → a = b := by
    intro name a b ha hb
    exact hunique name a b ((h _).mpr ha) ((h _).mpr hb)
  refine Option.ext fun a => ?_
  rw [lookup_eq_some_iff_mem hunique, lookup_eq_some_iff_mem hunique', h]

end AmbientDecls
