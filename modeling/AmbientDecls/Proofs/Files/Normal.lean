import AmbientDecls.Proofs.Files.Edits

/-! Paths without double dots behind a name. The paths that lead to one of these go through directories that are there
anyhow, or to places above its own, so in a well-formed tree it can be followed once there is a directory to end in. -/

namespace AmbientDecls

open FileTree

section Names

variable {place home : Place} {names pre : List String}

theorem FileTree.foldl_below (h : ".." ∉ names) (place : Place) : names.foldl below place = place ++ names := by
  induction names generalizing place with
  | nil => exact (List.append_nil place).symm
  | cons n names ih =>
    have hn : n ≠ ".." := fun heq => h (heq ▸ List.mem_cons_self ..)
    rw [List.foldl_cons, ih fun hmem => h (List.mem_cons_of_mem _ hmem), below, if_neg hn, List.append_assoc]
    rfl

theorem FileTree.foldl_below_dots (k : Nat) (place : Place) : (List.replicate k "..").foldl below place <+: place := by
  induction k generalizing place with
  | zero => exact List.prefix_refl _
  | succ k ih =>
    rw [List.replicate_succ, List.foldl_cons, below, if_pos rfl]
    exact (ih _).trans (List.dropLast_prefix place)

theorem Path.settle_eq_foldl (place names : List String) : settle place names = names.foldl below place := by
  induction names generalizing place with
  | nil => rfl
  | cons n names ih =>
    unfold settle
    rw [List.foldl_cons, below]
    split <;> rw [ih]

end Names

/-- Double dots are in front of all names, and only in a relative path. -/
def Path.Normal (p : Path) : Prop :=
  ∃ k names, p.parts = List.replicate k ".." ++ names ∧ ".." ∉ names ∧ (p.isAbsolute = true → k = 0)

namespace Path

variable {p q : Path} {home : Place}

theorem Normal.of_leadsTo (hp : p.Normal) (h : q.LeadsTo p) : q.Normal := by
  obtain ⟨k, names, hparts, hnames, habsolute⟩ := hp
  obtain ⟨hslashes, rest, hrest⟩ := h
  have hsame : q.isAbsolute = p.isAbsolute := by rw [isAbsolute, isAbsolute, hslashes]
  rw [hparts] at hrest
  rw [Normal, hsame]
  rcases List.append_eq_append_iff.mp hrest with ⟨dots, hdots, -⟩ | ⟨pre, hpre, hback⟩
  · obtain ⟨hlength, hq, -⟩ := List.append_eq_replicate_iff.mp hdots.symm
    refine ⟨q.parts.length, [], by rw [List.append_nil]; exact hq, by simp, fun hroot => ?_⟩
    have hk := habsolute hroot
    omega
  · refine ⟨k, pre, hpre, fun hmem => hnames ?_, habsolute⟩
    rw [hback]
    exact List.mem_append_left _ hmem

/-- A path that leads to a normal one ends where relative paths begin, above that, or above where the normal one ends. -/
theorem Normal.prefix_of_leadsTo (hp : p.Normal) (h : q.LeadsTo p) (hne : q.parts ≠ p.parts) (home : Place) :
    q.placeFrom home <+: home ∨ q.placeFrom home <+: (p.placeFrom home).dropLast := by
  obtain ⟨k, names, hparts, hnames, habsolute⟩ := hp
  obtain ⟨hslashes, rest, hrest⟩ := h
  have hsame : q.isAbsolute = p.isAbsolute := by rw [isAbsolute, isAbsolute, hslashes]
  rw [hparts] at hrest
  unfold placeFrom
  rw [hsame, hparts, List.foldl_append, FileTree.foldl_below hnames]
  rcases List.append_eq_append_iff.mp hrest with ⟨dots, hdots, -⟩ | ⟨pre, hpre, hback⟩
  · obtain ⟨-, hq, -⟩ := List.append_eq_replicate_iff.mp hdots.symm
    left
    rw [hq]
    refine (FileTree.foldl_below_dots _ _).trans ?_
    split
    · exact List.nil_prefix
    · exact List.prefix_refl _
  · right
    have hpre' : ".." ∉ pre := fun hmem => hnames (hback ▸ List.mem_append_left _ hmem)
    have hrest' : rest ≠ [] := by
      rintro rfl
      exact hne (by rw [hpre, hparts, hback, List.append_nil])
    rw [hpre, List.foldl_append, FileTree.foldl_below hpre', hback, ← List.append_assoc,
      List.dropLast_append_of_ne_nil hrest']
    exact List.prefix_append _ _

theorem Normal.prefix_of_leadsTo_self (hp : p.Normal) (h : q.LeadsTo p) (home : Place) :
    q.placeFrom home <+: home ∨ q.placeFrom home <+: p.placeFrom home := by
  by_cases hsame : q.parts = p.parts
  · right
    rw [placeFrom, placeFrom, isAbsolute, isAbsolute, h.1, hsame]
  · exact (hp.prefix_of_leadsTo h hsame home).imp_right fun h => h.trans (List.dropLast_prefix _)

end Path

/-- Whether a path and its names are as short as they have to be. -/
def Path.Fits (p : Path) : Prop :=
  p.toText.utf8ByteSize ≤ pathLimit ∧ ∀ n ∈ p.parts, n.utf8ByteSize ≤ nameLimit

/-- Whether no file stands on the way to a path. -/
def FileTree.Clear (t : FileTree) (p : Path) : Prop :=
  p.Fits ∧ ∀ q : Path, q.LeadsTo p → t.fileAt (q.placeFrom t.home) = none

section Following

variable {t u : FileTree} {p q : Path} {place : Place} {names : List String}

theorem Text.utf8ByteSize_intercalate_le (separator : String) (front back : List String) :
    (separator.intercalate front).utf8ByteSize ≤ (separator.intercalate (front ++ back)).utf8ByteSize := by
  induction front with
  | nil => exact Nat.zero_le _
  | cons n front ih =>
    cases front with
    | nil =>
      cases back with
      | nil => exact Nat.le_refl _
      | cons m back =>
        rw [List.cons_append, List.nil_append, String.intercalate_singleton, String.intercalate_cons_cons,
          String.utf8ByteSize_append, String.utf8ByteSize_append]
        omega
    | cons m front =>
      simp only [List.cons_append, String.intercalate_cons_cons, String.utf8ByteSize_append] at ih ⊢
      omega

theorem Path.Fits.of_leadsTo (hp : p.Fits) (h : q.LeadsTo p) : q.Fits := by
  obtain ⟨hslashes, rest, hrest⟩ := h
  refine ⟨?_, fun n hn => hp.2 n (hrest ▸ List.mem_append_left _ hn)⟩
  by_cases hempty : q.slashes = 0 ∧ q.parts = []
  · rw [toText, if_pos hempty]
    decide
  · have hfilled : ¬ (p.slashes = 0 ∧ p.parts = []) := by
      rintro ⟨hzero, hnil⟩
      rw [← hrest] at hnil
      exact hempty ⟨hslashes.trans hzero, (List.append_eq_nil_iff.mp hnil).1⟩
    have hsize := hp.1
    have hle := Text.utf8ByteSize_intercalate_le "/" q.parts rest
    rw [hrest] at hle
    rw [toText, if_neg hfilled, String.utf8ByteSize_append] at hsize
    rw [toText, if_neg hempty, String.utf8ByteSize_append, hslashes]
    omega

theorem Path.LeadsTo.trans {r : Path} (hqp : q.LeadsTo p) (hpr : p.LeadsTo r) : q.LeadsTo r :=
  ⟨hqp.1.trans hpr.1, hqp.2.trans hpr.2⟩

theorem FileTree.Clear.of_leadsTo (hp : t.Clear p) (h : q.LeadsTo p) : t.Clear q :=
  ⟨hp.1.of_leadsTo h, fun r hr => hp.2 r (hr.trans h)⟩

theorem FileTree.walk_sizes {last : Place} (h : t.walk place names = .ok last) : ∀ n ∈ names, n.utf8ByteSize ≤ nameLimit := by
  induction names generalizing place with
  | nil => simp
  | cons n rest ih =>
    obtain ⟨hshort, ⟨rfl, _⟩ | ⟨_, _, hrest⟩⟩ := walk_cons_eq_ok h
    · simpa using hshort
    · intro m hm
      rcases List.mem_cons.mp hm with rfl | hm
      · exact Nat.le_of_not_lt hshort
      · exact ih hrest m hm

theorem FileTree.fits_of_locate (h : t.locate p = .ok place) : p.Fits := by
  obtain ⟨hshort, hwalk⟩ := locate_eq_ok h
  exact ⟨Nat.le_of_not_lt hshort, walk_sizes hwalk⟩

theorem FileTree.walk_of_directories (hsizes : ∀ n ∈ names, n.utf8ByteSize ≤ nameLimit)
    (hdirs : ∀ front, front <+: names → front ≠ names → t.at? (front.foldl below place) = some .directory) :
    t.walk place names = .ok (names.foldl below place) := by
  induction names generalizing place with
  | nil => rfl
  | cons n rest ih =>
    have hshort : ¬ nameLimit < n.utf8ByteSize := Nat.not_lt.mpr (hsizes n (List.mem_cons_self ..))
    rw [walk_cons, if_neg hshort]
    by_cases hlast : rest = []
    · rw [if_pos hlast, hlast]
      rfl
    · have hnext : t.at? (below place n) = some .directory :=
        hdirs [n] (List.prefix_append [n] rest) (by simpa using Ne.symm hlast)
      rw [if_neg hlast, hnext]
      refine ih (fun m hm => hsizes m (List.mem_cons_of_mem _ hm)) fun front hfront hne => ?_
      exact hdirs (n :: front) (List.cons_prefix_cons.mpr ⟨rfl, hfront⟩) (by simpa using hne)

namespace FileTree.WellFormed

/-- In a well-formed tree a normal path can be followed if there is a directory to end in. -/
theorem locate_of_above (ht : t.WellFormed) (hp : p.Normal) (hfits : p.Fits)
    (h : t.at? (p.placeFrom t.home).dropLast = some .directory) : t.locate p = .ok (p.placeFrom t.home) := by
  rw [locate, if_neg (Nat.not_lt.mpr hfits.1)]
  refine walk_of_directories hfits.2 fun front hfront hne => ?_
  rcases hp.prefix_of_leadsTo (q := ⟨p.slashes, front⟩) ⟨rfl, hfront⟩ hne t.home with habove | habove
  · exact ht.above_directory ht.home habove
  · exact ht.above_directory h habove

theorem above_child (ht : t.WellFormed) (hparts : p.parts ≠ [])
    (h : t.at? (p.parent.placeFrom t.home) = some .directory) :
    t.at? (p.placeFrom t.home).dropLast = some .directory := by
  have hplace : p.placeFrom t.home = below (p.parent.placeFrom t.home) (p.parts.getLast hparts) := by
    conv_lhs => rw [Path.placeFrom, ← List.dropLast_append_getLast hparts, List.foldl_append]
    rfl
  rw [hplace, below]
  split
  · exact ht.above (ht.above h)
  · rwa [List.dropLast_concat]

theorem at?_root (ht : t.WellFormed) (hparts : p.parts = []) : t.at? (p.placeFrom t.home) = some .directory := by
  rw [Path.placeFrom, hparts, List.foldl_nil]
  split
  · exact t.at?_nil
  · exact ht.home

end FileTree.WellFormed

/-- Where nothing is, no file stands on the way if the path can be followed. -/
theorem FileTree.clear_of_locate (ht : t.WellFormed) (hp : p.Normal) (hlocate : t.locate p = .ok place)
    (hat : t.at? place = none) : t.Clear p := by
  refine ⟨fits_of_locate hlocate, fun q hq => ?_⟩
  have hplace := placeFrom_of_locate hlocate
  by_cases hsame : q.parts = p.parts
  · have heq : q.placeFrom t.home = place := by
      rw [← hplace, Path.placeFrom, Path.placeFrom, Path.isAbsolute, Path.isAbsolute, hq.1, hsame]
    rw [heq]
    exact fileAt_of_none hat
  · refine fileAt_of_directory ?_
    rcases hp.prefix_of_leadsTo hq hsame t.home with habove | habove
    · exact ht.above_directory ht.home habove
    · rw [hplace] at habove
      exact ht.above_directory (ht.above_locate hlocate) habove

end Following
end AmbientDecls
