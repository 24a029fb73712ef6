import Mathlib.Data.List.Infix
import AmbientDecls.Text.Pieces

/-! Adjacent characters. Where two stand side by side in a text that is put together, renamed or filtered, and how replacing
such a pair goes with these steps. A pair whose characters are taken apart does not come up again. -/

namespace AmbientDecls.Text

variable {a b : Char} {r s t : List Char}

theorem pair_infix_cons_iff {c : Char} :
    [a, b] <:+: c :: s ↔ (c = a ∧ s.head? = some b) ∨ [a, b] <:+: s := by
  have hprefix : [a, b] <+: c :: s ↔ c = a ∧ s.head? = some b := by
    cases s with
    | nil => simp [List.cons_prefix_cons]
    | cons d s => simp [List.cons_prefix_cons, eq_comm]
  rw [List.infix_cons_iff, hprefix]

theorem pair_infix_append_iff : [a, b] <:+: s ++ t ↔
    [a, b] <:+: s ∨ [a, b] <:+: t ∨ (s.getLast? = some a ∧ t.head? = some b) := by
  induction s with
  | nil => simp
  | cons c s ih =>
    rw [List.cons_append, pair_infix_cons_iff, ih, pair_infix_cons_iff]
    cases s with
    | nil =>
      have hnil : ¬ [a, b] <:+: ([] : List Char) := by simp
      have hhead : ([] : List Char).head? ≠ some b := by simp
      rw [List.nil_append, List.getLast?_singleton, Option.some_inj, List.getLast?_nil]
      tauto
    | cons d s =>
      rw [List.cons_append, List.head?_cons, List.head?_cons, List.getLast?_cons_cons]
      tauto

theorem pair_infix_map_iff {f : Char → Char} (ha : ∀ c, f c = a ↔ c = a) (hb : ∀ c, f c = b ↔ c = b) :
    [a, b] <:+: s.map f ↔ [a, b] <:+: s := by
  induction s with
  | nil => rfl
  | cons c s ih =>
    have hhead : (s.map f).head? = some b ↔ s.head? = some b := by
      cases s with
      | nil => simp
      | cons d s => simp [hb]
    rw [List.map_cons, pair_infix_cons_iff, pair_infix_cons_iff, ih, ha, hhead]

/-- A third character keeps two texts apart. -/
theorem not_pair_append_cons {c : Char} (hca : c ≠ a) (hcb : c ≠ b) (hs : ¬ [a, b] <:+: s)
    (ht : ¬ [a, b] <:+: t) : ¬ [a, b] <:+: s ++ c :: t := by
  rw [pair_infix_append_iff, pair_infix_cons_iff]
  rintro (h | (⟨h, _⟩ | h) | ⟨_, h⟩)
  · exact hs h
  · exact hca h
  · exact ht h
  · exact hcb (Option.some.inj h)

/-- A pair at the very end is the only one, if none comes up before its last character. -/
theorem eq_of_pair_at_end (h : ¬ [a, b] <:+: s ++ [a]) {front back : List Char}
    (heq : s ++ [a, b] = front ++ [a, b] ++ back) : front = s ∧ back = [] := by
  rcases List.eq_nil_or_concat' back with rfl | ⟨more, c, rfl⟩
  · rw [List.append_nil] at heq
    exact ⟨(List.append_cancel_right heq).symm, rfl⟩
  · have hends : (s ++ [a]) ++ [b] = (front ++ [a, b] ++ more) ++ [c] := by
      rw [List.append_assoc, List.append_assoc _ more]
      exact heq
    obtain ⟨hbefore, _⟩ := List.append_inj' hends rfl
    exact absurd ⟨front, more, hbefore.symm⟩ h

theorem pair_infix_filter_iff {p : Char → Bool} (ha : p a = true) (hb : p b = true) :
    [a, b] <:+: s.filter p ↔ ∃ front gap back, s = front ++ a :: (gap ++ b :: back) ∧ ∀ c ∈ gap, p c = false := by
  constructor
  · rintro ⟨u, v, huv⟩
    rw [List.append_assoc, eq_comm, List.filter_eq_append_iff] at huv
    obtain ⟨before, after, rfl, _, hafter⟩ := huv
    obtain ⟨more, rest, rfl, _, _, hrest⟩ := List.filter_eq_cons_iff.mp hafter
    obtain ⟨gap, back, rfl, hgap, _, _⟩ := List.filter_eq_cons_iff.mp hrest
    exact ⟨before ++ more, gap, back, by simp, fun c hc => Bool.eq_false_iff.mpr (hgap c hc)⟩
  · rintro ⟨front, gap, back, rfl, hgap⟩
    have hnone : gap.filter p = [] := List.filter_eq_nil_iff.mpr fun c hc => Bool.eq_false_iff.mp (hgap c hc)
    refine ⟨front.filter p, back.filter p, ?_⟩
    rw [List.filter_append, List.filter_cons_of_pos ha, List.filter_append, hnone, List.nil_append,
      List.filter_cons_of_pos hb, List.append_assoc]
    rfl

/-- Texts in which there is nothing to replace: the ones that the last equation of `replacePair` is about. -/
theorem short_cases (h : ∀ x y t, s = x :: y :: t → False) : s = [] ∨ ∃ x, s = [x] := by
  rcases s with _ | ⟨x, _ | ⟨y, t⟩⟩
  · exact Or.inl rfl
  · exact Or.inr ⟨x, rfl⟩
  · exact absurd rfl (h x y t)

theorem not_pair_of_short (h : ∀ x y t, s = x :: y :: t → False) : ¬ [a, b] <:+: s := by
  obtain rfl | ⟨x, rfl⟩ := short_cases h
  · simp
  · simp [pair_infix_cons_iff]

section Replaced

theorem eq_nil_of_replacePair (hr : r ≠ []) (h : replacePair a b r s = []) : s = [] := by
  rcases s with _ | ⟨x, _ | ⟨y, s⟩⟩
  · rfl
  · exact h
  · rw [replacePair] at h
    split at h
    · exact absurd (List.append_eq_nil_iff.mp h).1 hr
    · cases h

theorem mem_of_mem_replacePair {c : Char} (h : c ∈ replacePair a b r s) : c ∈ r ∨ c ∈ s := by
  fun_induction replacePair a b r s with
  | case1 x y s hpair ih =>
    rcases List.mem_append.mp h with h | h
    · exact Or.inl h
    · exact (ih h).imp_right fun hs => List.mem_cons_of_mem _ (List.mem_cons_of_mem _ hs)
  | case2 x y s hpair ih =>
    rcases List.mem_cons.mp h with rfl | h
    · exact Or.inr (List.mem_cons_self ..)
    · exact (ih h).imp_right fun hs => List.mem_cons_of_mem _ hs
  | case3 => exact Or.inr h

/-- A character other than those of the pair is not lost. -/
theorem mem_replacePair {c : Char} (hca : c ≠ a) (hcb : c ≠ b) (h : c ∈ s) : c ∈ replacePair a b r s := by
  fun_induction replacePair a b r s with
  | case1 x y s hpair ih =>
    obtain ⟨rfl, rfl⟩ := hpair
    refine List.mem_append_right _ (ih ?_)
    simpa [hca, hcb] using h
  | case2 x y s hpair ih =>
    rcases List.mem_cons.mp h with rfl | h
    · exact List.mem_cons_self ..
    · exact List.mem_cons_of_mem _ (ih h)
  | case3 => exact h

theorem replacePair_cons_of_ne {c : Char} (h : c ≠ a) : replacePair a b r (c :: s) = c :: replacePair a b r s := by
  cases s with
  | nil => rfl
  | cons y s =>
    have hc : ¬ (c = a ∧ y = b) := fun hpair => h hpair.1
    rw [replacePair, if_neg hc]

theorem head?_replacePair (h : s.head? ≠ some a) : (replacePair a b r s).head? = s.head? := by
  rcases s with _ | ⟨x, _ | ⟨y, s⟩⟩
  · rfl
  · rfl
  · have hx : ¬ (x = a ∧ y = b) := fun hpair => h (hpair.1 ▸ rfl)
    rw [replacePair, if_neg hx]
    rfl

/-- What stands before a border that the pair does not cross is replaced by itself. -/
theorem replacePair_append (h : ¬ (s.getLast? = some a ∧ t.head? = some b)) :
    replacePair a b r (s ++ t) = replacePair a b r s ++ replacePair a b r t := by
  fun_induction replacePair a b r s with
  | case1 x y s hpair ih =>
    have hrest : ¬ (s.getLast? = some a ∧ t.head? = some b) := by
      cases s with
      | nil => simp
      | cons z s => simpa using h
    rw [List.cons_append, List.cons_append, replacePair, if_pos hpair, ih hrest, List.append_assoc]
  | case2 x y s hpair ih =>
    rw [List.cons_append, List.cons_append, replacePair, if_neg hpair, ← List.cons_append, ih (by simpa using h),
      List.cons_append]
  | case3 s hshort =>
    obtain rfl | ⟨x, rfl⟩ := short_cases hshort
    · rfl
    · cases t with
      | nil => rfl
      | cons y t =>
        have hx : ¬ (x = a ∧ y = b) := by simpa using h
        rw [List.singleton_append, replacePair, if_neg hx]
        rfl

/-- Renaming other characters does not change which pairs are dropped. -/
theorem replacePair_map {f : Char → Char} (ha : ∀ c, f c = a ↔ c = a) (hb : ∀ c, f c = b ↔ c = b) (s : List Char) :
    replacePair a b [] (s.map f) = (replacePair a b [] s).map f := by
  fun_induction replacePair a b [] s with
  | case1 x y s hpair ih =>
    have hmapped : f x = a ∧ f y = b := ⟨(ha x).mpr hpair.1, (hb y).mpr hpair.2⟩
    rw [List.map_cons, List.map_cons, replacePair, if_pos hmapped, ih]
    rfl
  | case2 x y s hpair ih =>
    have hmapped : ¬ (f x = a ∧ f y = b) := fun h => hpair ⟨(ha x).mp h.1, (hb y).mp h.2⟩
    rw [List.map_cons] at ih
    rw [List.map_cons, List.map_cons, List.map_cons, replacePair, if_neg hmapped, ih]
  | case3 s hshort =>
    obtain rfl | ⟨x, rfl⟩ := short_cases hshort
    · rfl
    · rfl

theorem head?_replacePair_cons : (replacePair a b (a :: r) s).head? = s.head? := by
  rcases s with _ | ⟨x, _ | ⟨y, s⟩⟩
  · rfl
  · rfl
  · rw [replacePair]
    split
    · rename_i hpair
      exact congrArg some hpair.1.symm
    · rfl

/-- A pair whose characters are taken apart by a third one does not come up again. -/
theorem not_pair_replacePair {c : Char} (hab : a ≠ b) (hca : c ≠ a) (hcb : c ≠ b) :
    ¬ [a, b] <:+: replacePair a b [a, c, b] s := by
  fun_induction replacePair a b [a, c, b] s with
  | case1 x y s hpair ih =>
    have hback : ¬ [a, b] <:+: b :: replacePair a b [a, c, b] s := by
      rw [pair_infix_cons_iff]
      rintro (⟨h, _⟩ | h)
      · exact hab h.symm
      · exact ih h
    exact not_pair_append_cons (s := [a]) hca hcb (by simp [pair_infix_cons_iff]) hback
  | case2 x y s hpair ih =>
    rw [pair_infix_cons_iff, head?_replacePair_cons]
    rintro (⟨hx, hy⟩ | h)
    · exact hpair ⟨hx, Option.some.inj hy⟩
    · exact ih h
  | case3 s hshort => exact not_pair_of_short hshort

end Replaced
end AmbientDecls.Text
