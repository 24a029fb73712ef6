import AmbientDecls.Proofs.Files.Status
import Mathlib.Data.List.Induction
import Mathlib.Data.List.Infix
import Mathlib.Logic.Relation

/-! What an operation on files leaves alone. A path leads to a place that its names alone tell, if it leads anywhere. In a
tree in which all is in directories, an operation that is asked for other places keeps the file at a place. -/

namespace AmbientDecls

/-- The place that a path leads to, if it leads to one. -/
def Path.placeFrom (home : Place) (p : Path) : Place :=
  p.parts.foldl FileTree.below (if p.isAbsolute then [] else home)

/-- Whether the names of a path are the first ones of another path. -/
def Path.LeadsTo (q p : Path) : Prop := q.slashes = p.slashes ∧ q.parts <+: p.parts

namespace Path

variable {p q : Path}

theorem LeadsTo.refl (p : Path) : p.LeadsTo p := ⟨rfl, List.prefix_refl _⟩

theorem LeadsTo.of_parent (h : q.LeadsTo p.parent) : q.LeadsTo p :=
  ⟨h.1, h.2.trans (List.dropLast_prefix _)⟩

end Path

namespace FileTree

/-- Everything is in a directory, and relative paths begin in one. -/
structure WellFormed (t : FileTree) : Prop where
  home : t.at? t.home = some .directory
  above : ∀ {place : Place} {n : Node}, t.at? place = some n → t.at? place.dropLast = some .directory

/-- The content of the file at a place. -/
def fileAt (t : FileTree) (place : Place) : Option Bytes :=
  match t.at? place with
  | some (.file bytes) => some bytes
  | _ => none

variable {t u : FileTree} {p : Path} {home place q : Place} {n : Node} {names : List String}

theorem at?_nil (t : FileTree) : t.at? [] = some .directory := rfl

theorem ne_nil_of_at? (h : t.at? q ≠ some .directory) : q ≠ [] := by
  rintro rfl
  exact h t.at?_nil

theorem fileAt_congr (h : u.at? place = t.at? place) : u.fileAt place = t.fileAt place := by
  unfold fileAt
  rw [h]

theorem fileAt_of_directory (h : t.at? place = some .directory) : t.fileAt place = none := by
  unfold fileAt
  rw [h]

theorem fileAt_of_none (h : t.at? place = none) : t.fileAt place = none := by
  unfold fileAt
  rw [h]

theorem fileAt_set_self (h : place ≠ []) (bytes : Bytes) :
    (t.set place (.file bytes)).fileAt place = some bytes := by
  unfold fileAt
  rw [at?_set_self h]

/-- A directory that is made where nothing was changes no file. -/
theorem fileAt_set_directory (h : t.at? q = none) (place : Place) :
    (t.set q .directory).fileAt place = t.fileAt place := by
  by_cases hplace : place = q
  · subst hplace
    have hnodir : t.at? place ≠ some .directory := by simp [h]
    rw [fileAt_of_directory (at?_set_self (ne_nil_of_at? hnodir) _), fileAt_of_none h]
  · exact fileAt_congr (at?_set_of_ne hplace _)

theorem walk_eq_foldl (h : t.walk place names = .ok q) : names.foldl below place = q := by
  induction names generalizing place with
  | nil => exact Except.ok.inj h
  | cons n rest ih =>
    obtain ⟨_, ⟨rfl, hq⟩ | ⟨_, _, hrest⟩⟩ := walk_cons_eq_ok h
    · exact hq
    · exact ih hrest

theorem placeFrom_of_locate (h : t.locate p = .ok q) : p.placeFrom t.home = q :=
  walk_eq_foldl (locate_eq_ok h).2

namespace WellFormed

/-- It is enough to look at what is listed. -/
theorem of_nodes (hhome : t.at? t.home = some .directory)
    (h : ∀ e ∈ t.nodes, t.at? e.1.dropLast = some .directory) : t.WellFormed := by
  refine ⟨hhome, fun {place n} hplace => ?_⟩
  by_cases hroot : place = []
  · rw [hroot]
    rfl
  · rw [at?, if_neg hroot] at hplace
    obtain ⟨before, after, hsplit, _⟩ := List.lookup_eq_some_iff.mp hplace
    exact h (place, n) (hsplit ▸ List.mem_append_right _ (List.mem_cons_self ..))

/-- A path that can be followed ends in a directory. -/
theorem above_walk (ht : t.WellFormed) (hplace : t.at? place = some .directory)
    (h : t.walk place names = .ok q) : t.at? q.dropLast = some .directory := by
  induction names generalizing place with
  | nil =>
    obtain rfl := Except.ok.inj h
    exact ht.above hplace
  | cons n rest ih =>
    obtain ⟨_, ⟨_, rfl⟩ | ⟨_, hnext, hrest⟩⟩ := walk_cons_eq_ok h
    · unfold below
      split
      · exact ht.above (ht.above hplace)
      · rwa [List.dropLast_concat]
    · exact ih hnext hrest

theorem above_locate (ht : t.WellFormed) (h : t.locate p = .ok q) :
    t.at? q.dropLast = some .directory := by
  refine ht.above_walk ?_ (locate_eq_ok h).2
  split
  · exact t.at?_nil
  · exact ht.home

theorem at?_eq_none_of_below (ht : t.WellFormed) (hplace : t.at? place ≠ some .directory)
    (hbelow : place <+: q) (hne : q ≠ place) : t.at? q = none := by
  induction q using List.reverseRecOn with
  | nil => exact absurd (List.prefix_nil.mp hbelow).symm hne
  | append_singleton q n ih =>
    have hfront : place <+: q :=
      (List.prefix_concat_iff.mp hbelow).resolve_left fun heq => hne heq.symm
    by_contra hat
    obtain ⟨m, hm⟩ := Option.ne_none_iff_exists'.mp hat
    have habove : t.at? q = some .directory := by
      have hdropped := ht.above hm
      rwa [List.dropLast_concat] at hdropped
    by_cases hq : q = place
    · exact hplace (hq ▸ habove)
    · rw [ih hfront hq] at habove
      cases habove

/-- Above what is there are directories. -/
theorem above_of_front (ht : t.WellFormed) (h : t.at? q = some n) (hfront : place <+: q) (hne : place ≠ q) :
    t.at? place = some .directory := by
  by_contra hnodir
  rw [ht.at?_eq_none_of_below hnodir hfront hne.symm] at h
  cases h

theorem above_directory (ht : t.WellFormed) (h : t.at? q = some .directory) (hfront : place <+: q) :
    t.at? place = some .directory := by
  by_cases hsame : place = q
  · rw [hsame, h]
  · exact ht.above_of_front h hfront hsame

theorem at?_remove_file (ht : t.WellFormed) {bytes : Bytes} (hfile : t.at? q = some (.file bytes))
    (place : Place) : (t.remove q).at? place = if place = q then none else t.at? place := by
  have hnodir : t.at? q ≠ some .directory := by simp [hfile]
  have hroot := ne_nil_of_at? hnodir
  by_cases hplace : place = []
  · rw [if_neg (hplace ▸ hroot.symm), hplace, at?_nil, at?_nil]
  · rw [at?_remove hplace]
    by_cases hsame : place = q
    · simp [hsame]
    · rw [if_neg hsame]
      by_cases hbelow : q <+: place
      · rw [ht.at?_eq_none_of_below hnodir hbelow hsame, ite_self]
      · rw [if_neg (by simpa using hbelow)]

theorem set (ht : t.WellFormed) (hroot : q ≠ []) (habove : t.at? q.dropLast = some .directory)
    (hkept : t.at? q = some .directory → n = .directory) : (t.set q n).WellFormed := by
  -- a directory stays one
  have hdirectory : ∀ {place}, t.at? place = some .directory →
      (t.set q n).at? place = some .directory := by
    intro place hplace
    by_cases hsame : place = q
    · subst hsame
      rw [at?_set_self hroot, hkept hplace]
    · rw [at?_set_of_ne hsame, hplace]
  refine ⟨hdirectory ht.home, fun {place m} hplace => hdirectory ?_⟩
  by_cases hsame : place = q
  · rw [hsame, habove]
  · rw [at?_set_of_ne hsame] at hplace
    exact ht.above hplace

theorem remove_file (ht : t.WellFormed) {bytes : Bytes} (hfile : t.at? q = some (.file bytes)) :
    (t.remove q).WellFormed := by
  have hdirectory : ∀ {place}, t.at? place = some .directory →
      (t.remove q).at? place = some .directory := by
    intro place hplace
    have hne : place ≠ q := by
      rintro rfl
      simp [hfile] at hplace
    rw [ht.at?_remove_file hfile, if_neg hne, hplace]
  refine ⟨hdirectory ht.home, fun {place m} hplace => hdirectory ?_⟩
  rw [ht.at?_remove_file hfile] at hplace
  split at hplace
  · cases hplace
  · exact ht.above hplace

end WellFormed

/-- A well-formed tree turns into another one, and the file at a place stays as it is. -/
def Keeps (home place : Place) (t u : FileTree) : Prop :=
  t.home = home ∧ t.WellFormed → (u.home = home ∧ u.WellFormed) ∧ u.fileAt place = t.fileAt place

theorem Keeps.refl (home place : Place) (t : FileTree) : Keeps home place t t := fun h => ⟨h, rfl⟩

theorem Keeps.trans {v : FileTree} (htu : Keeps home place t u) (huv : Keeps home place u v) :
    Keeps home place t v := by
  intro h
  obtain ⟨hu, hfile⟩ := htu h
  obtain ⟨hv, hfile'⟩ := huv hu
  exact ⟨hv, hfile'.trans hfile⟩

/-- A well-formed tree turns into another one in a given way. -/
def Within (home : Place) (R : FileTree → FileTree → Prop) (t u : FileTree) : Prop :=
  t.home = home ∧ t.WellFormed → (u.home = home ∧ u.WellFormed) ∧ R t u

/-- What every step does a sequence of steps does, if it can be done in no step and in two. -/
theorem Within.of_steps {R : FileTree → FileTree → Prop} (hrefl : ∀ t, R t t)
    (htrans : ∀ t u v, R t u → R u v → R t v) (h : Relation.ReflTransGen (Within home R) t u) :
    Within home R t u := by
  induction h with
  | refl => exact fun ht => ⟨ht, hrefl _⟩
  | tail _ hstep ih =>
    intro ht
    obtain ⟨hu, hfirst⟩ := ih ht
    obtain ⟨hv, hthen⟩ := hstep hu
    exact ⟨hv, htrans _ _ _ hfirst hthen⟩

theorem makeDirectory_eq_ok (h : t.makeDirectory p = .ok u) :
    ∃ q, t.locate p = .ok q ∧ t.at? q = none ∧ u = t.set q .directory := by
  unfold makeDirectory at h
  cases hlocate : t.locate p with
  | error c => simp [hlocate, bind, Except.bind] at h
  | ok q =>
    cases hat : t.at? q with
    | some n => simp [hlocate, hat, bind, Except.bind] at h
    | none => exact ⟨q, rfl, hat, by simpa [hlocate, hat, bind, Except.bind, eq_comm] using h⟩

theorem write_eq_ok {bytes : Bytes} (h : t.write p bytes = .ok u) : ∃ q, t.locate p = .ok q ∧
    t.at? q ≠ some .directory ∧ u = t.set q (.file bytes) := by
  unfold write at h
  cases hlocate : t.locate p with
  | error c => simp [hlocate, bind, Except.bind] at h
  | ok q =>
    refine ⟨q, rfl, ?_⟩
    cases hat : t.at? q with
    | none => simpa [hlocate, hat, bind, Except.bind, eq_comm] using h
    | some n =>
      cases n with
      | directory => simp [hlocate, hat, bind, Except.bind] at h
      | file old => simpa [hlocate, hat, bind, Except.bind, eq_comm] using h

theorem read_eq_ok {bytes : Bytes} (h : t.read p = .ok bytes) :
    ∃ q, t.locate p = .ok q ∧ t.at? q = some (.file bytes) := by
  unfold read at h
  cases hlocate : t.locate p with
  | error c => simp [hlocate, bind, Except.bind] at h
  | ok q =>
    refine ⟨q, rfl, ?_⟩
    cases hat : t.at? q with
    | none => simp [hlocate, hat, bind, Except.bind] at h
    | some n =>
      cases n with
      | directory => simp [hlocate, hat, bind, Except.bind] at h
      | file old => simpa [hlocate, hat, bind, Except.bind] using h

theorem unlink_eq_ok (h : t.unlink p = .ok u) :
    ∃ q bytes, t.locate p = .ok q ∧ t.at? q = some (.file bytes) ∧ u = t.remove q := by
  unfold unlink at h
  cases hlocate : t.locate p with
  | error c => simp [hlocate, bind, Except.bind] at h
  | ok q =>
    cases hat : t.at? q with
    | none => simp [hlocate, hat, bind, Except.bind] at h
    | some n =>
      cases n with
      | directory => simp [hlocate, hat, bind, Except.bind] at h
      | file bytes =>
        exact ⟨q, bytes, rfl, hat, by simpa [hlocate, hat, bind, Except.bind, eq_comm] using h⟩

theorem rename_eq_ok {p' : Path} (h : t.rename p p' = .ok u) : ∃ q q' bytes, t.locate p = .ok q ∧
    t.locate p' = .ok q' ∧ t.at? q = some (.file bytes) ∧ t.at? q' ≠ some .directory ∧
    u = (t.remove q).set q' (.file bytes) := by
  unfold rename at h
  cases hlocate : t.locate p with
  | error c => simp [hlocate, bind, Except.bind] at h
  | ok q =>
    cases hlocate' : t.locate p' with
    | error c => simp [hlocate, hlocate', bind, Except.bind] at h
    | ok q' =>
      simp only [hlocate, hlocate', bind, Except.bind] at h
      split at h
      · cases h
      · cases hat : t.at? q with
        | none => simp [hat] at h
        | some n =>
          cases n with
          | directory => simp [hat] at h
          | file bytes =>
            refine ⟨q, q', bytes, rfl, rfl, hat, ?_⟩
            cases hat' : t.at? q' with
            | none => simpa [hat, hat', eq_comm] using h
            | some n' =>
              cases n' with
              | directory => simp [hat, hat'] at h
              | file old => simpa [hat, hat', eq_comm] using h

/-- Relative paths begin at the same place. -/
def SameHome (t u : FileTree) : Prop := u.home = t.home

theorem sameHome_makeDirectory (h : t.makeDirectory p = .ok u) : SameHome t u := by
  obtain ⟨_, _, _, rfl⟩ := makeDirectory_eq_ok h
  rfl

theorem sameHome_write {bytes : Bytes} (h : t.write p bytes = .ok u) : SameHome t u := by
  obtain ⟨_, _, _, rfl⟩ := write_eq_ok h
  rfl

theorem sameHome_unlink (h : t.unlink p = .ok u) : SameHome t u := by
  obtain ⟨_, _, _, _, rfl⟩ := unlink_eq_ok h
  rfl

theorem sameHome_rename {p' : Path} (h : t.rename p p' = .ok u) : SameHome t u := by
  obtain ⟨_, _, _, _, _, _, _, rfl⟩ := rename_eq_ok h
  rfl

theorem sameHome_removeAll (t : FileTree) (p : Path) : SameHome t (t.removeAll p) := by
  unfold SameHome removeAll
  split
  · split <;> rfl
  · rfl

theorem WellFormed.makeDirectory (ht : t.WellFormed) (h : t.makeDirectory p = .ok u) : u.WellFormed := by
  obtain ⟨q, hlocate, hat, rfl⟩ := makeDirectory_eq_ok h
  have hnodir : t.at? q ≠ some .directory := by simp [hat]
  exact ht.set (ne_nil_of_at? hnodir) (ht.above_locate hlocate) fun _ => rfl

theorem WellFormed.write {bytes : Bytes} (ht : t.WellFormed) (h : t.write p bytes = .ok u) : u.WellFormed := by
  obtain ⟨q, hlocate, hat, rfl⟩ := write_eq_ok h
  exact ht.set (ne_nil_of_at? hat) (ht.above_locate hlocate) fun hdir => absurd hdir hat

theorem keeps_makeDirectory (home place : Place) (h : t.makeDirectory p = .ok u) :
    Keeps home place t u := by
  rintro ⟨hhome, ht⟩
  refine ⟨⟨(sameHome_makeDirectory h).trans hhome, ht.makeDirectory h⟩, ?_⟩
  obtain ⟨q, _, hat, rfl⟩ := makeDirectory_eq_ok h
  exact fileAt_set_directory hat place

/-- There is no file in a directory that was just made. -/
theorem fileAt_below_makeDirectory (ht : t.WellFormed) (h : t.makeDirectory p = .ok u)
    (hbelow : p.placeFrom t.home <+: place) : u.fileAt place = none := by
  obtain ⟨q, hlocate, hat, rfl⟩ := makeDirectory_eq_ok h
  rw [placeFrom_of_locate hlocate] at hbelow
  rw [fileAt_set_directory hat]
  refine fileAt_of_none ?_
  by_cases hplace : place = q
  · rw [hplace, hat]
  · exact ht.at?_eq_none_of_below (by simp [hat]) hbelow hplace

/-- A file that is written is at the place of its path, and any other file is what it was. -/
theorem fileAt_write {bytes : Bytes} (h : t.write p bytes = .ok u) (place : Place) :
    u.fileAt place = if place = p.placeFrom t.home then some bytes else t.fileAt place := by
  obtain ⟨q, hlocate, hat, rfl⟩ := write_eq_ok h
  rw [placeFrom_of_locate hlocate]
  split
  · rename_i hplace
    rw [hplace, fileAt_set_self (ne_nil_of_at? hat)]
  · rename_i hplace
    exact fileAt_congr (at?_set_of_ne hplace _)

theorem keeps_write {bytes : Bytes} (hplace : p.placeFrom home ≠ place)
    (h : t.write p bytes = .ok u) : Keeps home place t u := by
  rintro ⟨rfl, ht⟩
  have hfile := fileAt_write h place
  rw [if_neg hplace.symm] at hfile
  exact ⟨⟨sameHome_write h, ht.write h⟩, hfile⟩

theorem keeps_unlink (hplace : p.placeFrom home ≠ place) (h : t.unlink p = .ok u) :
    Keeps home place t u := by
  rintro ⟨rfl, ht⟩
  obtain ⟨q, bytes, hlocate, hat, rfl⟩ := unlink_eq_ok h
  rw [placeFrom_of_locate hlocate] at hplace
  refine ⟨⟨rfl, ht.remove_file hat⟩, fileAt_congr ?_⟩
  rw [ht.at?_remove_file hat, if_neg hplace.symm]

theorem keeps_rename {p' : Path} (hplace : p.placeFrom home ≠ place)
    (hplace' : p'.placeFrom home ≠ place) (h : t.rename p p' = .ok u) : Keeps home place t u := by
  rintro ⟨rfl, ht⟩
  obtain ⟨q, q', bytes, hlocate, hlocate', hat, hat', rfl⟩ := rename_eq_ok h
  rw [placeFrom_of_locate hlocate] at hplace
  rw [placeFrom_of_locate hlocate'] at hplace'
  -- without the file that was moved the tree has the same directories
  have hremoved := ht.at?_remove_file hat
  have habove : (t.remove q).at? q'.dropLast = some .directory := by
    have hdirectory := ht.above_locate hlocate'
    have hne : q'.dropLast ≠ q := by
      intro heq
      rw [heq, hat] at hdirectory
      cases hdirectory
    rw [hremoved, if_neg hne, hdirectory]
  have hnodir : (t.remove q).at? q' ≠ some .directory := by
    rw [hremoved]
    split
    · simp
    · exact hat'
  refine ⟨⟨rfl, (ht.remove_file hat).set (ne_nil_of_at? hat') habove fun hdir =>
    absurd hdir hnodir⟩, fileAt_congr ?_⟩
  rw [at?_set_of_ne hplace'.symm, hremoved, if_neg hplace.symm]

theorem fileAt_put (h : q ≠ place) (n : Node) : (t.put q n).fileAt place = t.fileAt place := by
  -- the directories above are made only where nothing is
  have habove : ∀ (above : List Place) (t : FileTree),
      (above.foldl (fun t p => if (t.at? p).isNone then t.set p .directory else t) t).fileAt place =
        t.fileAt place := by
    intro above
    induction above with
    | nil => exact fun _ => rfl
    | cons p above ih =>
      intro t
      rw [List.foldl_cons, ih]
      split
      · rename_i hnone
        exact fileAt_set_directory (Option.isNone_iff_eq_none.mp hnone) place
      · rfl
  unfold put
  simp only
  split
  · exact habove _ t
  · rw [fileAt_congr (at?_set_of_ne h.symm _), habove]

/-- A directory in which no file was is taken out without any loss. -/
theorem fileAt_removeAll (h : p.placeFrom t.home <+: place → t.fileAt place = none) :
    (t.removeAll p).fileAt place = t.fileAt place := by
  unfold removeAll
  cases hlocate : t.locate p with
  | error c => rfl
  | ok q =>
    rw [placeFrom_of_locate hlocate] at h
    simp only
    split
    · by_cases hroot : place = []
      · rw [hroot, fileAt_of_directory (at?_nil _), fileAt_of_directory (at?_nil _)]
      · have hremoved : (t.remove q).at? place = if q.isPrefixOf place then none else t.at? place :=
          at?_remove hroot
        by_cases hbelow : q <+: place
        · rw [if_pos (by simpa using hbelow)] at hremoved
          rw [h hbelow, fileAt_of_none hremoved]
        · rw [if_neg (by simpa using hbelow)] at hremoved
          exact fileAt_congr hremoved
    · rfl

end FileTree
end AmbientDecls
