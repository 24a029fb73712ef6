import AmbientDecls.Files.Zip.Writer
import AmbientDecls.Proofs.Build.Lexical
import AmbientDecls.Proofs.Build.Outcomes

/-! Unpacking is confined. An archive with an entry outside of the directory is refused before anything is written, and the
entries of any other one are written in the directory. -/

namespace AmbientDecls

namespace FileTree

/-- Only what is at a place or below it is different, and directories above it that were missing are there. -/
def ChangesBelow (place : Place) (t u : FileTree) : Prop :=
  ∀ q, u.at? q ≠ t.at? q → place <+: q ∨ q <+: place ∧ t.at? q = none ∧ u.at? q = some .directory

variable {t u v : FileTree} {place q : Place} {p : Path}

theorem ChangesBelow.refl (place : Place) (t : FileTree) : ChangesBelow place t t := fun _ h => absurd rfl h

theorem ChangesBelow.trans (htu : ChangesBelow place t u) (huv : ChangesBelow place u v) :
    ChangesBelow place t v := by
  intro q hq
  by_cases hfirst : u.at? q = t.at? q
  · have hthen := huv q (hfirst ▸ hq)
    rwa [hfirst] at hthen
  · rcases htu q hfirst with hbelow | ⟨habove, hnone, hmade⟩
    · exact Or.inl hbelow
    · by_cases hthen : v.at? q = u.at? q
      · exact Or.inr ⟨habove, hnone, hthen.trans hmade⟩
      · rcases huv q hthen with hbelow | ⟨_, hgone, _⟩
        · exact Or.inl hbelow
        · rw [hmade] at hgone
          cases hgone

theorem changesBelow_set {n : Node} (h : place <+: q ∨ q <+: place ∧ t.at? q = none ∧ n = .directory)
    (hroot : q ≠ []) : ChangesBelow place t (t.set q n) := by
  intro q' hq'
  have hsame : q' = q := by
    by_contra hne
    exact hq' (at?_set_of_ne hne n)
  rw [hsame, at?_set_self hroot]
  rcases h with hbelow | ⟨habove, hnone, rfl⟩
  · exact Or.inl hbelow
  · exact Or.inr ⟨habove, hnone, rfl⟩

/-- A directory on the way to a path below a place is made below it, or above it. -/
theorem within_makeDirectory {r : Path} {home : Place} (hr : r.Normal) (hbelow : place <+: r.placeFrom home)
    (hp : p.LeadsTo r) (h : t.makeDirectory p = .ok u) : Within home (ChangesBelow place) t u := by
  rintro ⟨rfl, ht⟩
  refine ⟨⟨sameHome_makeDirectory h, ht.makeDirectory h⟩, ?_⟩
  obtain ⟨q, hlocate, hat, rfl⟩ := makeDirectory_eq_ok h
  have hq := placeFrom_of_locate hlocate
  refine changesBelow_set ?_ (ne_nil_of_at? (t := t) (by simp [hat]))
  rcases hr.prefix_of_leadsTo_self hp t.home with hfront | hfront
  -- where relative paths begin, and above that, all directories are there
  · rw [hq] at hfront
    have hthere := ht.above_directory ht.home hfront
    rw [hat] at hthere
    cases hthere
  · rw [hq] at hfront
    rcases List.prefix_or_prefix_of_prefix hbelow hfront with h | h
    · exact Or.inl h
    · exact Or.inr ⟨h, hat, rfl⟩

theorem within_write {home : Place} {bytes : Bytes} (hbelow : place <+: p.placeFrom home)
    (h : t.write p bytes = .ok u) : Within home (ChangesBelow place) t u := by
  rintro ⟨rfl, ht⟩
  refine ⟨⟨sameHome_write h, ht.write h⟩, ?_⟩
  obtain ⟨q, hlocate, hat, rfl⟩ := write_eq_ok h
  rw [placeFrom_of_locate hlocate] at hbelow
  exact changesBelow_set (Or.inl hbelow) (ne_nil_of_at? hat)

end FileTree

namespace Act

/-- How unpacking ends if an entry lies outside of the directory. -/
def escapeFailure (directory : Path) (name : String) : Failure :=
  unpackFailure ("archive member escapes " ++ directory.toText ++ ": " ++ name) false

/-- How unpacking ends if the archive does not hold the folder. -/
def missingFailure (archive folder : String) : Failure :=
  unpackFailure (archive ++ " does not contain " ++ folder ++ "/") false

variable {archive folder : String} {directory : Path} {bytes : Bytes} {entries : List Zip.Entry} {w w' : World}

/-- What is done with an archive none of whose entries lies outside of the directory. -/
def unpackAll (archive : String) (bytes : Bytes) (directory : Path) (folder : String)
    (entries : List Zip.Entry) : Act Path := do
  entries.forM (unpackEntry archive bytes directory entries)
  if ← isDirectory (directory.child folder) then return directory.child folder
  else throw (missingFailure archive folder)

theorem readNamed_world (name : String) (w : World) : (readNamed name w).2 = w := by
  unfold readNamed usable
  cases (Path.ofText name).hasNul with
  | true => rfl
  | false =>
    simp only [Bool.false_eq_true, if_false]
    rw [bind_of_ok (pure_apply () w), bind_apply, get_apply]
    simp only
    cases w.files.readNamed name <;> rfl

/-- An archive that can be read is refused for its first entry outside of the directory, or else unpacked. -/
theorem unpack_apply (hnew : (isDirectory (directory.child folder) w).1 = .ok false)
    (husable : directory.hasNul = false) (hread : (readNamed archive w).1 = .ok bytes)
    (hentries : Zip.entries bytes = .ok entries) :
    unpack archive directory folder w =
      match entries.find? fun e => !confined w.files.home directory e with
      | some e => (.error (escapeFailure directory e.name), w)
      | none => unpackAll archive bytes directory folder entries w := by
  have hbytes : readNamed archive w = (.ok bytes, w) := Prod.ext hread (readNamed_world archive w)
  have hlist : readable archive (Zip.entries bytes) w = (.ok entries, w) := by rw [hentries]; rfl
  have hlook : look (fun t => t.home) w = (.ok w.files.home, w) := rfl
  unfold unpack
  rw [bind_of_ok (isDirectory_eq hnew)]
  simp only [Bool.false_eq_true, if_false]
  rw [bind_of_ok (usable_apply husable w), bind_of_ok hbytes, bind_of_ok hlist, bind_of_ok hlook]
  cases entries.find? fun e => !confined w.files.home directory e <;> rfl

theorem confined_iff {home : Place} (hhome : ".." ∉ home) (directory : Path) (e : Zip.Entry) :
    confined home directory e = true ↔ directory.placeFrom home <+: (directory.child e.name).placeFrom home := by
  unfold confined
  rw [settled_eq hhome, settled_eq hhome, List.isPrefixOf_iff_prefix]

/-- Nothing outside of the directory is touched, whatever the names of the entries are. -/
theorem changesBelow_unpackAll (hw : w.files.WellFormed) :
    FileTree.ChangesBelow (directory.placeFrom w.files.home) w.files
      (unpackAll archive bytes directory folder entries w).2.files := by
  have hentry : ∀ e : Zip.Entry, directory.placeFrom w.files.home <+:
      (entryPath directory e).placeFrom w.files.home := by
    intro e
    rw [placeFrom_entryPath]
    exact List.prefix_append _ _
  have hedits : Edits
      (FileTree.Within w.files.home (FileTree.ChangesBelow (directory.placeFrom w.files.home)))
      (unpackAll archive bytes directory folder entries) := by
    refine (edits_forM fun e _ => edits_unpackEntry ?_ fun _ content t u hwrite => ?_).bind fun _ => ?_
    · exact fun q hq t u => FileTree.within_makeDirectory (normal_entryPath directory e) (hentry e) hq.leadsTo
    · exact FileTree.within_write (hentry e) hwrite
    · refine (edits_isDirectory _).bind fun made => ?_
      split
      · exact edits_pure _
      · exact edits_throw _
  have hwithin := FileTree.Within.of_steps (FileTree.ChangesBelow.refl _) (fun _ _ _ => .trans) (hedits w).files
  exact (hwithin ⟨rfl, hw⟩).2

section Escapes

variable (directory) in
/-- A failure that does not say that an entry lies outside. -/
def NoEscape (f : Failure) : Prop := ∀ name, f ≠ escapeFailure directory name

theorem noEscape_archiveFailure (archive : String) (fault : Zip.Fault) :
    NoEscape directory (archiveFailure archive fault) := by
  intro name
  cases fault with
  | damaged d =>
    -- what is wrong with an archive is reported with its cause, and an entry outside without one
    intro heq
    simp [archiveFailure, escapeFailure, unpackFailure] at heq
  | _ => nofun

theorem fails_unpackEntry (archive : String) (bytes : Bytes) (all : List Zip.Entry) (e : Zip.Entry) :
    Fails (NoEscape directory) (unpackEntry archive bytes directory all e) := by
  have hnul : NoEscape directory .nul := fun _ => nofun
  have hfile : ∀ e, NoEscape directory (.file e) := fun _ _ => nofun
  have hreadable : ∀ {α : Type} (r : Except Zip.Fault α), Fails (NoEscape directory) (readable archive r) := by
    intro α r
    cases r with
    | ok a => exact fails_pure a
    | error fault => exact fails_throw (noEscape_archiveFailure archive fault)
  have hchain := fails_makeChain hnul hfile (entryPath directory e).parent.parts.length
    (entryPath directory e).parent
  unfold unpackEntry
  refine (fails_look _).bind fun there => ?_
  cases e.isDirectory with
  | true =>
    simp only [if_true]
    refine fails_guarded hchain ((fails_look _).bind fun made => ?_)
    split
    · exact fails_change hnul hfile _ none _
    · exact fails_pure ()
  | false =>
    simp only [Bool.false_eq_true, if_false]
    refine fails_guarded hchain ((hreadable _).bind fun packed => ?_)
    refine (fails_change hnul hfile _ none _).bind fun _ => ?_
    split
    · exact fails_pure ()
    · exact fails_throw (noEscape_archiveFailure archive _)

/-- Once nothing lies outside, unpacking never says that something does. -/
theorem fails_unpackAll : Fails (fun f => f = missingFailure archive folder ∨ NoEscape directory f)
    (unpackAll archive bytes directory folder entries) := by
  refine Fails.bind (fails_forM fun e _ w f hf => ?_) fun _ => Fails.bind ?_ fun made => ?_
  · exact Or.inr (fails_unpackEntry archive bytes entries e w f hf)
  · exact fails_isDirectory (fun e => Or.inr fun _ => nofun) _
  · split
    · exact fails_pure _
    · exact fails_throw (Or.inl rfl)

end Escapes

/-- An archive with an entry outside of the directory is refused for the first such entry, and nothing is changed. The
entries of any other one are only written in the directory, at it, or in directories that were missing above it; no failure
then says that an entry lies outside, but for an archive whose name makes another message read so. -/
theorem unpack_confined (hhome : ".." ∉ w.files.home) (hw : w.files.WellFormed)
    (hnew : (isDirectory (directory.child folder) w).1 = .ok false) (husable : directory.hasNul = false)
    (hread : (readNamed archive w).1 = .ok bytes) (hentries : Zip.entries bytes = .ok entries) :
    let place := directory.placeFrom w.files.home
    let inside (e : Zip.Entry) := place <+: (directory.child e.name).placeFrom w.files.home
    let (result, w') := unpack archive directory folder w
    ((∃ e ∈ entries, ¬ inside e) → w' = w ∧ ∃ before e after, entries = before ++ e :: after ∧
      (∀ d ∈ before, inside d) ∧ ¬ inside e ∧ result = .error (escapeFailure directory e.name)) ∧
    ((∀ e ∈ entries, inside e) →
      (∀ name, result = .error (escapeFailure directory name) →
        escapeFailure directory name = missingFailure archive folder) ∧
      ∀ q, w'.files.at? q ≠ w.files.at? q → place <+: q ∨ q <+: place ∧ w.files.at? q = none) := by
  intro place inside
  have hconfined : ∀ e, confined w.files.home directory e = true ↔ inside e := confined_iff hhome directory
  have houtside : ∀ e, (!confined w.files.home directory e) = true ↔ ¬ inside e := by
    intro e
    rw [Bool.not_eq_true', ← Bool.not_eq_true, hconfined]
  rw [unpack_apply hnew husable hread hentries]
  cases hfind : entries.find? fun e => !confined w.files.home directory e with
  | some e =>
    obtain ⟨hout, before, after, hsplit, hbefore⟩ := List.find?_eq_some_iff_append.mp hfind
    refine ⟨fun _ => ⟨rfl, before, e, after, hsplit, fun d hd => ?_, (houtside e).mp hout, rfl⟩, fun hall => ?_⟩
    · by_contra hd'
      have hnot := hbefore d hd
      rw [(houtside d).mpr hd'] at hnot
      cases hnot
    · exact absurd (hall e (hsplit ▸ List.mem_append_right _ (List.mem_cons_self ..))) ((houtside e).mp hout)
  | none =>
    have hall : ∀ e ∈ entries, inside e := by
      intro e he
      by_contra hout
      exact List.find?_eq_none.mp hfind e he ((houtside e).mpr hout)
    refine ⟨fun ⟨e, he, hout⟩ => absurd (hall e he) hout, fun _ => ⟨fun name hname => ?_, fun q hq => ?_⟩⟩
    · exact (fails_unpackAll w _ hname).resolve_right fun hno => hno name rfl
    · exact (changesBelow_unpackAll hw q hq).imp_right fun ⟨habove, hnone, _⟩ => ⟨habove, hnone⟩

/-- A host with an archive of two entries, the second of which is not in the directory that it is unpacked into. -/
def escapingHost : World where
  files := ⟨[(["z.zip"], .file (Zip.encode [⟨"e/a", []⟩, ⟨"../x", []⟩]))], []⟩
  clock := ⟨2024, 1, 2, 3, 4, 5, 0, none⟩

theorem unpack_confined_escaping :
    (".." ∉ escapingHost.files.home ∧ escapingHost.files.WellFormed ∧
      (isDirectory ((⟨0, ["out"]⟩ : Path).child "e") escapingHost).1 = .ok false) ∧
    unpack "z.zip" ⟨0, ["out"]⟩ "e" escapingHost = (.error (escapeFailure ⟨0, ["out"]⟩ "../x"), escapingHost) := by
  have hhome : ".." ∉ escapingHost.files.home := by decide
  have hw : escapingHost.files.WellFormed := by
    refine .of_nodes rfl fun e he => ?_
    obtain rfl := List.mem_singleton.mp he
    rfl
  have hnew : (isDirectory ((⟨0, ["out"]⟩ : Path).child "e") escapingHost).1 = .ok false := by cbv
  have hread : (readNamed "z.zip" escapingHost).1 = .ok (Zip.encode [⟨"e/a", []⟩, ⟨"../x", []⟩]) := by cbv
  have hentries : Zip.entries (Zip.encode [⟨"e/a", []⟩, ⟨"../x", []⟩]) =
      .ok [⟨"e/a", 0, 0, 0, 0, 0, 0, 33⟩, ⟨"../x", 0, 0, 0, 0, 0, 33, 67⟩] := by decide +kernel
  have hnul : (⟨0, ["out"]⟩ : Path).hasNul = false := by cbv
  have hall := unpack_confined hhome hw hnew hnul hread hentries
  have hinside : (⟨0, ["out"]⟩ : Path).placeFrom escapingHost.files.home <+:
      ((⟨0, ["out"]⟩ : Path).child "e/a").placeFrom escapingHost.files.home := by decide +kernel
  have houtside : ¬ (⟨0, ["out"]⟩ : Path).placeFrom escapingHost.files.home <+:
      ((⟨0, ["out"]⟩ : Path).child "../x").placeFrom escapingHost.files.home := by decide +kernel
  refine ⟨⟨hhome, hw, hnew⟩, ?_⟩
  generalize unpack "z.zip" ⟨0, ["out"]⟩ "e" escapingHost = ended at hall ⊢
  obtain ⟨hsame, before, e, after, hsplit, _, hout, hresult⟩ :=
    hall.1 ⟨_, List.mem_cons_of_mem _ (List.mem_singleton_self _), houtside⟩
  have he : e ∈ before ++ e :: after := List.mem_append_right _ (List.mem_cons_self ..)
  rw [← hsplit] at he
  -- the first entry is in the directory, so it is the second one that is named
  rcases List.mem_cons.mp he with rfl | he
  · exact absurd hinside hout
  · obtain rfl := List.mem_singleton.mp he
    exact Prod.ext hresult hsame

end Act
end AmbientDecls
