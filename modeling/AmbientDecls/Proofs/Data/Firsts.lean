import AmbientDecls.Data.Basic

/-! A list without repetitions of a key: of the elements with one key only the first stays. What stays and what is left out
together are the whole list. -/

namespace AmbientDecls

variable {α β κ : Type} [DecidableEq κ]

/-- The first element of each key that is not among the keys seen before. -/
def firsts (key : α → κ) : List κ → List α → List α
  | _, [] => []
  | seen, a :: l =>
    if key a ∈ seen then firsts key seen l else a :: firsts key (key a :: seen) l

theorem firsts_nil (key : α → κ) (seen : List κ) : firsts key seen [] = [] := rfl

theorem firsts_cons_of_mem {key : α → κ} {seen : List κ} {a : α} (h : key a ∈ seen) (l : List α) :
    firsts key seen (a :: l) = firsts key seen l := if_pos h

theorem firsts_cons_of_not_mem {key : α → κ} {seen : List κ} {a : α} (h : key a ∉ seen)
    (l : List α) : firsts key seen (a :: l) = a :: firsts key (key a :: seen) l := if_neg h

theorem firsts_sublist (key : α → κ) (seen : List κ) (l : List α) :
    (firsts key seen l).Sublist l := by
  induction l generalizing seen with
  | nil => exact List.Sublist.slnil
  | cons a l ih =>
    by_cases h : key a ∈ seen
    · rw [firsts_cons_of_mem h]
      exact (ih seen).cons a
    · rw [firsts_cons_of_not_mem h]
      exact (ih (key a :: seen)).cons_cons a

/-- Every key that was not seen before keeps an element. -/
theorem mem_map_firsts {key : α → κ} {seen : List κ} {l : List α} {k : κ} :
    k ∈ (firsts key seen l).map key ↔ k ∉ seen ∧ k ∈ l.map key := by
  induction l generalizing seen with
  | nil => simp [firsts_nil]
  | cons a l ih =>
    by_cases h : key a ∈ seen
    · rw [firsts_cons_of_mem h, ih, List.map_cons, List.mem_cons]
      constructor
      · rintro ⟨hk, hl⟩
        exact ⟨hk, Or.inr hl⟩
      · rintro ⟨hk, rfl | hl⟩
        · exact absurd h hk
        · exact ⟨hk, hl⟩
    · rw [firsts_cons_of_not_mem h, List.map_cons, List.mem_cons, ih, List.map_cons,
        List.mem_cons, List.mem_cons]
      by_cases hka : k = key a
      · simp [hka, h]
      · simp [hka]

theorem map_firsts (key : α → κ) (seen : List κ) (l : List α) :
    (firsts key seen l).map key = ((l.map key).filter fun k => k ∉ seen).eraseDups := by
  induction l generalizing seen with
  | nil => rfl
  | cons a l ih =>
    rw [List.map_cons]
    by_cases h : key a ∈ seen
    · rw [firsts_cons_of_mem h, ih, List.filter_cons_of_neg (by simpa using h)]
    · rw [firsts_cons_of_not_mem h, List.map_cons, ih, List.filter_cons_of_pos (by simpa using h),
        List.eraseDups_cons, List.filter_filter]
      congr 3
      funext k
      rw [Bool.eq_iff_iff]
      simp

theorem nodup_map_firsts (key : α → κ) (seen : List κ) (l : List α) :
    ((firsts key seen l).map key).Nodup := by
  induction l generalizing seen with
  | nil => exact List.nodup_nil
  | cons a l ih =>
    by_cases h : key a ∈ seen
    · rw [firsts_cons_of_mem h]
      exact ih seen
    · rw [firsts_cons_of_not_mem h, List.map_cons, List.nodup_cons]
      exact ⟨fun hmem => (mem_map_firsts.mp hmem).1 (List.mem_cons_self ..), ih (key a :: seen)⟩

/-- The elements that are left out: those of a key that was seen before, there or among those that stay. -/
def repeats (key : α → κ) : List κ → List α → List α
  | _, [] => []
  | seen, a :: l =>
    if key a ∈ seen then a :: repeats key seen l else repeats key (key a :: seen) l

theorem repeats_cons_of_mem {key : α → κ} {seen : List κ} {a : α} (h : key a ∈ seen) (l : List α) :
    repeats key seen (a :: l) = a :: repeats key seen l := if_pos h

theorem repeats_cons_of_not_mem {key : α → κ} {seen : List κ} {a : α} (h : key a ∉ seen)
    (l : List α) : repeats key seen (a :: l) = repeats key (key a :: seen) l := if_neg h

theorem mem_firsts_of_new {key : α → κ} {seen : List κ} {before : List α} {a : α} (after : List α)
    (hseen : key a ∉ seen) (h : key a ∉ before.map key) : a ∈ firsts key seen (before ++ a :: after) := by
  induction before generalizing seen with
  | nil =>
    rw [List.nil_append, firsts_cons_of_not_mem hseen]
    exact List.mem_cons_self ..
  | cons b before ih =>
    rw [List.map_cons, List.mem_cons, not_or] at h
    rw [List.cons_append]
    by_cases hb : key b ∈ seen
    · rw [firsts_cons_of_mem hb]
      exact ih hseen h.2
    · rw [firsts_cons_of_not_mem hb]
      refine List.mem_cons_of_mem b (ih ?_ h.2)
      rw [List.mem_cons, not_or]
      exact ⟨h.1, hseen⟩

theorem mem_repeats_of_old {key : α → κ} {seen : List κ} {before : List α} {a : α} (after : List α)
    (h : key a ∈ seen ∨ key a ∈ before.map key) : a ∈ repeats key seen (before ++ a :: after) := by
  induction before generalizing seen with
  | nil =>
    rw [List.nil_append, repeats_cons_of_mem (h.resolve_right List.not_mem_nil)]
    exact List.mem_cons_self ..
  | cons b before ih =>
    rw [List.map_cons, List.mem_cons] at h
    rw [List.cons_append]
    by_cases hb : key b ∈ seen
    · rw [repeats_cons_of_mem hb]
      refine List.mem_cons_of_mem b (ih ?_)
      rcases h with h | h | h
      · exact Or.inl h
      · exact Or.inl (h ▸ hb)
      · exact Or.inr h
    · rw [repeats_cons_of_not_mem hb]
      refine ih ?_
      rw [List.mem_cons]
      rcases h with h | h | h
      · exact Or.inl (Or.inr h)
      · exact Or.inl (Or.inl h)
      · exact Or.inr h

end AmbientDecls
