/-! Cutting a text at separators and replacing a pair of adjacent characters. The pieces with their
separators put back make up the text again, and a text without separators is one piece. -/

namespace AmbientDecls.Text

def pieces (p : Char → Bool) : List Char → List (List Char)
  | [] => [[]]
  | c :: s => if p c then [] :: pieces p s else (pieces p s).modifyHead (c :: ·)

@[simp] theorem pieces_nil (p : Char → Bool) : pieces p [] = [[]] := rfl

theorem pieces_ne_nil (p : Char → Bool) (s : List Char) : pieces p s ≠ [] := by
  induction s with
  | nil => simp
  | cons c s ih =>
    rw [pieces]
    split
    · simp
    · cases h : pieces p s with
      | nil => exact absurd h ih
      | cons a t => simp

theorem pieces_eq_singleton {p : Char → Bool} {s : List Char} (h : ∀ c ∈ s, p c = false) :
    pieces p s = [s] := by
  induction s with
  | nil => rfl
  | cons c s ih =>
    rw [pieces, h c (by simp), ih fun d hd => h d (List.mem_cons_of_mem _ hd)]
    rfl

theorem pieces_append_cons {p : Char → Bool} (a : List Char) {c : Char} (b : List Char)
    (hc : p c = true) : pieces p (a ++ c :: b) = pieces p a ++ pieces p b := by
  induction a with
  | nil => simp [pieces, hc]
  | cons d a ih =>
    rw [List.cons_append, pieces, pieces, ih]
    split
    · simp
    · cases h : pieces p a with
      | nil => exact absurd h (pieces_ne_nil p a)
      | cons x t => simp

/-- Replaces every occurrence of `a` followed by `b`, from left to right, by `r`; replaced text is
not looked at again. -/
def replacePair (a b : Char) (r : List Char) : List Char → List Char
  | x :: y :: s =>
    if x = a ∧ y = b then r ++ replacePair a b r s else x :: replacePair a b r (y :: s)
  | s => s

@[simp] theorem replacePair_nil (a b : Char) (r : List Char) : replacePair a b r [] = [] := rfl

@[simp] theorem replacePair_singleton (a b : Char) (r : List Char) (x : Char) :
    replacePair a b r [x] = [x] := rfl

/-- Without the pair there is nothing to replace. -/
theorem replacePair_eq_self {a b : Char} {r s : List Char} (h : ¬ [a, b] <:+: s) : replacePair a b r s = s := by
  induction s with
  | nil => rfl
  | cons x s ih =>
    have hrest : ¬ [a, b] <:+: s := fun hs => h (hs.trans (List.suffix_cons x s).isInfix)
    cases s with
    | nil => rfl
    | cons y s =>
      have hpair : ¬ (x = a ∧ y = b) := by
        rintro ⟨rfl, rfl⟩
        exact h ⟨[], s, rfl⟩
      rw [replacePair, if_neg hpair, ih hrest]

/-- The text up to the first character that satisfies `p`, and what follows that character. -/
def cutAt (p : Char → Bool) (s : List Char) : List Char × Option (List Char) :=
  match s.dropWhile (fun c => !p c) with
  | [] => (s, none)
  | _ :: rest => (s.takeWhile (fun c => !p c), some rest)

def joined (sep : List Char) : List (List Char) → List Char
  | [] => []
  | [s] => s
  | s :: t :: rest => s ++ sep ++ joined sep (t :: rest)

theorem joined_cons {sep s : List Char} {rest : List (List Char)} (h : rest ≠ []) :
    joined sep (s :: rest) = s ++ sep ++ joined sep rest := by
  cases rest with
  | nil => exact absurd rfl h
  | cons t rest => rfl

theorem joined_append_singleton {sep : List Char} {pieces : List (List Char)} (h : pieces ≠ [])
    (s : List Char) : joined sep (pieces ++ [s]) = joined sep pieces ++ sep ++ s := by
  induction pieces with
  | nil => exact absurd rfl h
  | cons t rest ih =>
    cases rest with
    | nil => rfl
    | cons u rest =>
      rw [List.cons_append, joined_cons (by simp), ih (by simp),
        joined_cons (List.cons_ne_nil u rest)]
      simp only [List.append_assoc]

theorem mem_joined {c : Char} {sep : List Char} {texts : List (List Char)} (h : c ∈ joined sep texts) :
    c ∈ sep ∨ ∃ s ∈ texts, c ∈ s := by
  induction texts with
  | nil => cases h
  | cons s texts ih =>
    cases texts with
    | nil => exact Or.inr ⟨s, List.mem_cons_self .., h⟩
    | cons t texts =>
      rw [joined_cons (List.cons_ne_nil t texts)] at h
      rcases List.mem_append.mp h with h | h
      · rcases List.mem_append.mp h with h | h
        · exact Or.inr ⟨s, List.mem_cons_self .., h⟩
        · exact Or.inl h
      · rcases ih h with h | ⟨u, hu, hc⟩
        · exact Or.inl h
        · exact Or.inr ⟨u, List.mem_cons_of_mem s hu, hc⟩

/-- The pieces with the separators between them are the text again. -/
theorem joined_pieces (sep : Char) (s : List Char) : joined [sep] (pieces (· == sep) s) = s := by
  induction s with
  | nil => rfl
  | cons c s ih =>
    rw [pieces]
    split
    · rename_i hc
      rw [joined_cons (pieces_ne_nil _ s), ih, eq_of_beq hc]
      rfl
    · obtain ⟨first, rest, hpieces⟩ := List.exists_cons_of_ne_nil (pieces_ne_nil (· == sep) s)
      rw [hpieces] at ih ⊢
      rw [← ih]
      cases rest <;> rfl

theorem not_of_mem_pieces {p : Char → Bool} {s piece : List Char} (h : piece ∈ pieces p s) :
    ∀ c ∈ piece, p c = false := by
  induction s generalizing piece with
  | nil =>
    obtain rfl := List.mem_singleton.mp h
    exact fun c hc => absurd hc List.not_mem_nil
  | cons d s ih =>
    rw [pieces] at h
    split at h
    · rcases List.mem_cons.mp h with rfl | h
      · exact fun c hc => absurd hc List.not_mem_nil
      · exact ih h
    · rename_i hd
      obtain ⟨first, rest, hpieces⟩ := List.exists_cons_of_ne_nil (pieces_ne_nil p s)
      rw [hpieces] at h ih
      rcases List.mem_cons.mp h with rfl | h
      · exact List.forall_mem_cons.mpr ⟨Bool.eq_false_iff.mpr hd, ih (List.mem_cons_self ..)⟩
      · exact ih (List.mem_cons_of_mem _ h)

theorem not_mem_of_mem_pieces {sep : Char} {s piece : List Char} (h : piece ∈ pieces (· == sep) s) :
    sep ∉ piece := fun hsep => absurd (not_of_mem_pieces h sep hsep) (by simp)

theorem mem_of_mem_pieces {p : Char → Bool} {s piece : List Char} {c : Char} (h : piece ∈ pieces p s)
    (hc : c ∈ piece) : c ∈ s := by
  induction s generalizing piece with
  | nil =>
    obtain rfl := List.mem_singleton.mp h
    exact hc
  | cons d s ih =>
    rw [pieces] at h
    split at h
    · rcases List.mem_cons.mp h with rfl | h
      · cases hc
      · exact List.mem_cons_of_mem _ (ih h hc)
    · obtain ⟨first, rest, hpieces⟩ := List.exists_cons_of_ne_nil (pieces_ne_nil p s)
      rw [hpieces] at h ih
      rcases List.mem_cons.mp h with rfl | h
      · rcases List.mem_cons.mp hc with rfl | hc
        · exact List.mem_cons_self ..
        · exact List.mem_cons_of_mem _ (ih (List.mem_cons_self ..) hc)
      · exact List.mem_cons_of_mem _ (ih (List.mem_cons_of_mem _ h) hc)

def trimmed (p : Char → Bool) (s : List Char) : List Char :=
  ((s.dropWhile p).reverse.dropWhile p).reverse

end AmbientDecls.Text
