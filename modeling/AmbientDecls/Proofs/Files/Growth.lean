import AmbientDecls.Proofs.Files.Normal

/-! Trees that grow. Where directories stay directories and files stay files, a path that leads to one goes on to do so, and
a file that is written changes neither the list of another directory nor the content of another file. -/

namespace AmbientDecls.FileTree

/-- Directories stay, and so do files, with whatever content. -/
structure Grows (t u : FileTree) : Prop where
  home : u.home = t.home
  directory : ∀ q, t.at? q = some .directory → u.at? q = some .directory
  file : ∀ q, u.fileAt q = none → t.fileAt q = none

variable {t u v : FileTree} {p file : Path} {place q : Place} {n : String} {names : List String} {bytes content : Bytes}

theorem Grows.refl (t : FileTree) : Grows t t := ⟨rfl, fun _ => id, fun _ => id⟩

theorem Grows.trans (htu : Grows t u) (huv : Grows u v) : Grows t v :=
  ⟨huv.home.trans htu.home, fun q h => huv.directory q (htu.directory q h), fun q h => htu.file q (huv.file q h)⟩

theorem Grows.of_steps (h : Relation.ReflTransGen Grows t u) : Grows t u := by
  induction h with
  | refl => exact .refl t
  | tail _ hstep ih => exact ih.trans hstep

theorem grows_makeDirectory (h : t.makeDirectory p = .ok u) : Grows t u := by
  obtain ⟨place, _, hat, rfl⟩ := makeDirectory_eq_ok h
  refine ⟨rfl, fun q hq => ?_, fun q hq => ?_⟩
  · rw [at?_set_of_ne ?_, hq]
    rintro rfl
    simp [hat] at hq
  · rwa [fileAt_set_directory hat] at hq

theorem grows_write (h : t.write file bytes = .ok u) : Grows t u := by
  refine ⟨sameHome_write h, fun q hq => ?_, fun q hq => ?_⟩
  · obtain ⟨place, _, hat, rfl⟩ := write_eq_ok h
    rw [at?_set_of_ne ?_, hq]
    rintro rfl
    exact hat hq
  · rw [fileAt_write h] at hq
    split at hq
    · cases hq
    · exact hq

theorem isFile_iff : t.isFile p = true ↔ ∃ q bytes, t.locate p = .ok q ∧ t.at? q = some (.file bytes) := by
  unfold isFile find?
  cases t.locate p with
  | error c => simp
  | ok q =>
    cases hat : t.at? q with
    | none => simp [hat]
    | some n => cases n <;> simp [hat]

theorem isDirectory_iff : t.isDirectory p = true ↔ ∃ q, t.locate p = .ok q ∧ t.at? q = some .directory := by
  unfold isDirectory find?
  cases t.locate p with
  | error c => simp
  | ok q => simp

theorem Grows.isFile (h : Grows t u) (hp : t.isFile p = true) : u.isFile p = true := by
  obtain ⟨q, bytes, hlocate, hat⟩ := isFile_iff.mp hp
  have hfile : u.fileAt q ≠ none := by
    intro hnone
    have hbefore := h.file q hnone
    simp [fileAt, hat] at hbefore
  refine isFile_iff.mpr ⟨q, ?_⟩
  cases hat' : u.at? q with
  | none => exact absurd (fileAt_of_none hat') hfile
  | some n =>
    cases n with
    | directory => exact absurd (fileAt_of_directory hat') hfile
    | file bytes' => exact ⟨bytes', locate_mono hlocate h.home h.directory, rfl⟩

theorem Grows.isDirectory (h : Grows t u) (hp : t.isDirectory p = true) : u.isDirectory p = true := by
  obtain ⟨q, hlocate, hat⟩ := isDirectory_iff.mp hp
  exact isDirectory_iff.mpr ⟨q, locate_mono hlocate h.home h.directory, h.directory q hat⟩

theorem list_eq_ok (h : t.list p = .ok names) : ∃ q, t.locate p = .ok q ∧ t.at? q = some .directory := by
  unfold list at h
  cases hlocate : t.locate p with
  | error c => simp [hlocate, bind, Except.bind] at h
  | ok q =>
    refine ⟨q, rfl, ?_⟩
    cases hat : t.at? q with
    | none => simp [hlocate, hat, bind, Except.bind] at h
    | some n =>
      cases n with
      | directory => rfl
      | file bytes => simp [hlocate, hat, bind, Except.bind] at h

/-- A file that is written in another directory is not listed. -/
theorem list_write (h : t.write file bytes = .ok u) (hlist : t.list p = .ok names)
    (hne : (file.placeFrom t.home).dropLast ≠ p.placeFrom t.home) : u.list p = .ok names := by
  obtain ⟨q, hlocate, hat⟩ := list_eq_ok hlist
  have hgrows := grows_write h
  obtain ⟨place, hplace, _, rfl⟩ := write_eq_ok h
  rw [placeFrom_of_locate hplace, placeFrom_of_locate hlocate] at hne
  have hlisted : (t.set place (.file bytes)).nodes.filterMap (fun e =>
      if e.1.dropLast = q ∧ e.1 ≠ [] then e.1.getLast? else none) =
      t.nodes.filterMap fun e => if e.1.dropLast = q ∧ e.1 ≠ [] then e.1.getLast? else none := by
    change List.filterMap _ ((place, _) :: t.nodes.filter fun e => e.1 ≠ place) = _
    rw [List.filterMap_cons, if_neg fun h => hne h.1]
    simp only
    rw [List.filterMap_filter]
    refine List.filterMap_congr fun e _ => ?_
    by_cases he : e.1 = place
    · simp [he, hne]
    · simp [he]
  unfold list at hlist ⊢
  rw [locate_mono hlocate hgrows.home hgrows.directory]
  simp only [hlocate, bind, Except.bind, hat, hgrows.directory q hat] at hlist ⊢
  rw [hlisted]
  exact hlist

theorem read_write (h : t.write file bytes = .ok u) (hread : t.read p = .ok content)
    (hne : p.placeFrom t.home ≠ file.placeFrom t.home) : u.read p = .ok content := by
  obtain ⟨q, hlocate, hat⟩ := read_eq_ok hread
  have hgrows := grows_write h
  obtain ⟨place, hplace, _, rfl⟩ := write_eq_ok h
  rw [placeFrom_of_locate hplace, placeFrom_of_locate hlocate] at hne
  unfold read
  rw [locate_mono hlocate hgrows.home hgrows.directory]
  simp [bind, Except.bind, at?_set_of_ne hne, hat]

theorem walk_concat_eq_ok (h : t.walk place (names ++ [n]) = .ok q) (hnames : names ≠ []) :
    ∃ above, t.walk place names = .ok above ∧ t.at? above = some .directory ∧ below above n = q := by
  induction names generalizing place with
  | nil => exact absurd rfl hnames
  | cons m names ih =>
    rw [List.cons_append] at h
    obtain ⟨hshort, ⟨hlast, _⟩ | ⟨_, hat, hrest⟩⟩ := walk_cons_eq_ok h
    · simp at hlast
    · by_cases hmore : names = []
      · subst hmore
        obtain ⟨_, ⟨_, hq⟩ | ⟨hne, _⟩⟩ := walk_cons_eq_ok hrest
        · refine ⟨below place m, ?_, hat, hq⟩
          rw [walk_cons, if_neg hshort, if_pos rfl]
        · exact absurd rfl hne
      · obtain ⟨above, hwalk, hdirectory, hq⟩ := ih hrest hmore
        refine ⟨above, ?_, hdirectory, hq⟩
        rw [walk_cons, if_neg hshort, if_neg hmore, hat]
        exact hwalk

/-- A path that can be followed leads through the directory above it. -/
theorem locate_above (h : t.locate p = .ok q) (hparts : p.parent.parts ≠ []) :
    ∃ above, t.locate p.parent = .ok above ∧ t.at? above = some .directory := by
  have hfits := (fits_of_locate h).of_leadsTo (Path.LeadsTo.refl p.parent).of_parent
  obtain ⟨_, hwalk⟩ := locate_eq_ok h
  have hfilled : p.parts ≠ [] := by
    intro hnil
    rw [Path.parent, hnil] at hparts
    exact hparts rfl
  rw [← List.dropLast_append_getLast hfilled] at hwalk
  obtain ⟨above, habove, hat, _⟩ := walk_concat_eq_ok hwalk hparts
  refine ⟨above, ?_, hat⟩
  rw [locate, if_neg (Nat.not_lt.mpr hfits.1)]
  exact habove

end AmbientDecls.FileTree
