import AmbientDecls.Files.Tree

/-! What is at a path after a directory was made or taken out. A path leads to one place in every tree in which it
leads to a place at all. -/

namespace AmbientDecls.FileTree

variable {t u : FileTree} {p : Path} {place q : Place} {n : String} {names : List String}

/-- The place that one name leads to from another place. -/
def below (place : Place) (n : String) : Place := if n = ".." then place.dropLast else place ++ [n]

theorem walk_cons (t : FileTree) (place : Place) (n : String) (rest : List String) :
    t.walk place (n :: rest) =
      if nameLimit < n.utf8ByteSize then .error .nameTooLong
      else if rest = [] then .ok (below place n)
      else match t.at? (below place n) with
        | some .directory => t.walk (below place n) rest
        | some (.file _) => .error .notADirectory
        | none => .error .notFound := rfl

theorem walk_cons_eq_ok {rest : List String} (h : t.walk place (n :: rest) = .ok q) :
    ¬ nameLimit < n.utf8ByteSize ∧ (rest = [] ∧ below place n = q ∨
      rest ≠ [] ∧ t.at? (below place n) = some .directory ∧ t.walk (below place n) rest = .ok q) := by
  rw [walk_cons] at h
  by_cases hlong : nameLimit < n.utf8ByteSize
  · simp [hlong] at h
  · refine ⟨hlong, ?_⟩
    rw [if_neg hlong] at h
    by_cases hlast : rest = []
    · rw [if_pos hlast] at h
      exact Or.inl ⟨hlast, Except.ok.inj h⟩
    · rw [if_neg hlast] at h
      split at h
      · rename_i hat
        exact Or.inr ⟨hlast, hat, h⟩
      · cases h
      · cases h

/-- Names that can be followed in one tree can be followed to the same place in another, or break off there. -/
theorem walk_of_walk (h : t.walk place names = .ok q) (u : FileTree) :
    u.walk place names = .ok q ∨ u.walk place names = .error .notFound ∨
      u.walk place names = .error .notADirectory := by
  induction names generalizing place with
  | nil => exact Or.inl h
  | cons n rest ih =>
    obtain ⟨hshort, ⟨hlast, hq⟩ | ⟨hmore, _, hrest⟩⟩ := walk_cons_eq_ok h
    · rw [walk_cons, if_neg hshort, if_pos hlast, hq]
      exact Or.inl rfl
    · rw [walk_cons, if_neg hshort, if_neg hmore]
      split
      · exact ih hrest
      · exact Or.inr (Or.inr rfl)
      · exact Or.inr (Or.inl rfl)

theorem walk_mono (hdirs : ∀ q, t.at? q = some .directory → u.at? q = some .directory)
    (h : t.walk place names = .ok q) : u.walk place names = .ok q := by
  induction names generalizing place with
  | nil => exact h
  | cons n rest ih =>
    obtain ⟨hshort, ⟨hlast, hq⟩ | ⟨hmore, hat, hrest⟩⟩ := walk_cons_eq_ok h
    · rw [walk_cons, if_neg hshort, if_pos hlast, hq]
    · rw [walk_cons, if_neg hshort, if_neg hmore, hdirs _ hat]
      exact ih hrest

/-- Names that lead to a directory are followed before the names behind them. -/
theorem walk_append {rest : List String} (h : t.walk place names = .ok q) (hat : t.at? q = some .directory)
    (hrest : rest ≠ []) : t.walk place (names ++ rest) = t.walk q rest := by
  induction names generalizing place with
  | nil =>
    obtain rfl := Except.ok.inj h
    rfl
  | cons n names ih =>
    obtain ⟨hshort, ⟨rfl, hq⟩ | ⟨_, hnext, hmore⟩⟩ := walk_cons_eq_ok h
    · rw [List.cons_append, List.nil_append, walk_cons, if_neg hshort, if_neg hrest, hq, hat]
    · rw [List.cons_append, walk_cons, if_neg hshort, if_neg (by simp [hrest]), hnext]
      exact ih hmore

theorem locate_eq_ok (h : t.locate p = .ok q) :
    ¬ pathLimit < p.toText.utf8ByteSize ∧
      t.walk (if p.isAbsolute then [] else t.home) p.parts = .ok q := by
  unfold locate at h
  by_cases hlong : pathLimit < p.toText.utf8ByteSize
  · simp [hlong] at h
  · rw [if_neg hlong] at h
    exact ⟨hlong, h⟩

theorem locate_of_locate (h : t.locate p = .ok q) (hhome : u.home = t.home) :
    u.locate p = .ok q ∨ u.locate p = .error .notFound ∨ u.locate p = .error .notADirectory := by
  obtain ⟨hshort, hwalk⟩ := locate_eq_ok h
  rw [locate, if_neg hshort, hhome]
  exact walk_of_walk hwalk u

theorem locate_mono (h : t.locate p = .ok q) (hhome : u.home = t.home)
    (hdirs : ∀ q, t.at? q = some .directory → u.at? q = some .directory) : u.locate p = .ok q := by
  obtain ⟨hshort, hwalk⟩ := locate_eq_ok h
  rw [locate, if_neg hshort, hhome]
  exact walk_mono hdirs hwalk

theorem locate_concat (h : t.locate p = .ok q) (hat : t.at? q = some .directory) (n : String) :
    t.locate ⟨p.slashes, p.parts ++ [n]⟩ = .ok (below q n) ∨
      t.locate ⟨p.slashes, p.parts ++ [n]⟩ = .error .nameTooLong := by
  obtain ⟨_, hwalk⟩ := locate_eq_ok h
  have hlast : t.walk (if p.isAbsolute then [] else t.home) (p.parts ++ [n]) = t.walk q [n] :=
    walk_append hwalk hat (List.cons_ne_nil n [])
  rw [locate]
  split
  · exact Or.inr rfl
  · change t.walk (if p.isAbsolute then [] else t.home) (p.parts ++ [n]) = _ ∨
      t.walk (if p.isAbsolute then [] else t.home) (p.parts ++ [n]) = _
    rw [hlast, walk_cons]
    split
    · exact Or.inr rfl
    · exact Or.inl rfl

theorem status_of_locate (h : t.locate p = .ok q) : t.status p = .ok (t.at? q) := by
  rw [status, h]

theorem status_eq_some {n : Node} (h : t.status p = .ok (some n)) :
    ∃ q, t.locate p = .ok q ∧ t.at? q = some n := by
  unfold status at h
  cases hlocate : t.locate p with
  | ok q =>
    rw [hlocate] at h
    exact ⟨q, rfl, Except.ok.inj h⟩
  | error c => cases c <;> simp [hlocate] at h

/-- A directory that was made is there, at a place other than the root. -/
theorem locate_makeDirectory (h : t.makeDirectory p = .ok u) :
    u.home = t.home ∧ ∃ q, q ≠ [] ∧ u.locate p = .ok q ∧ u.at? q = some .directory := by
  unfold makeDirectory at h
  cases hlocate : t.locate p with
  | error c => simp [hlocate, bind, Except.bind] at h
  | ok place =>
    cases hat : t.at? place with
    | some n => simp [hlocate, hat, bind, Except.bind] at h
    | none =>
      obtain rfl : t.set place .directory = u := by
        simpa [hlocate, hat, bind, Except.bind] using h
      have hroot : place ≠ [] := by
        rintro rfl
        simp [at?] at hat
      -- it was made where nothing was, so the path can still be followed through all other directories
      have hkept : ∀ q, t.at? q = some .directory →
          (t.set place .directory).at? q = some .directory := by
        intro q hq
        have hne : q ≠ place := by
          rintro rfl
          simp [hat] at hq
        rw [at?_set_of_ne hne, hq]
      have hhome := set_home t place .directory
      exact ⟨hhome, place, hroot, locate_mono hlocate hhome hkept, at?_set_self hroot .directory⟩

end AmbientDecls.FileTree
