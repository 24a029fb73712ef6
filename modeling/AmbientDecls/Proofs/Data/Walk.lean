import AmbientDecls.Data.Basic

/-! Walks. From a key one finds an element, goes on from the key of that element, and comes to an end where nothing is
found. A search with a bound finds the whole walk if the bound is no shorter than it. -/

namespace AmbientDecls

variable {κ α : Type} {next : κ → Option α} {key : α → κ} {k : κ} {l : List α}

inductive Walk (next : κ → Option α) (key : α → κ) : κ → List α → Prop
  | done {k : κ} : next k = none → Walk next key k []
  | on {k : κ} {a : α} {l : List α} :
      next k = some a → Walk next key (key a) l → Walk next key k (a :: l)

namespace Walk

theorem unique {l' : List α} (h : Walk next key k l) (h' : Walk next key k l') : l = l' := by
  induction h generalizing l' with
  | done hnone =>
    cases h' with
    | done _ => rfl
    | on hnext _ => exact absurd (hnone.symm.trans hnext) (by simp)
  | on hnext _ ih =>
    cases h' with
    | done hnone => exact absurd (hnone.symm.trans hnext) (by simp)
    | on hnext' hl' =>
      obtain rfl := Option.some.inj (hnext.symm.trans hnext')
      rw [ih hl']

theorem of_append {below above : List α} {a : α} (h : Walk next key k (below ++ a :: above)) :
    Walk next key (key a) above := by
  induction below generalizing k with
  | nil =>
    cases h with
    | on _ habove => exact habove
  | cons b below ih =>
    cases h with
    | on _ hrest => exact ih hrest

/-- A function that takes one step of a walk for each unit of its bound finds the walk. -/
theorem search_eq {search : Nat → κ → List α} (hzero : ∀ k, search 0 k = [])
    (hsucc : ∀ fuel k, search (fuel + 1) k = (next k).elim [] fun a => a :: search fuel (key a))
    (h : Walk next key k l) {fuel : Nat} (hfuel : l.length ≤ fuel) : search fuel k = l := by
  induction h generalizing fuel with
  | done hnone =>
    cases fuel with
    | zero => exact hzero _
    | succ fuel => rw [hsucc, hnone, Option.elim_none]
  | on hnext _ ih =>
    cases fuel with
    | zero => simp at hfuel
    | succ fuel =>
      rw [hsucc, hnext, Option.elim_some, ih (Nat.le_of_succ_le_succ hfuel)]

end Walk
end AmbientDecls
