import AmbientDecls.Proofs.Build.Confinement
import AmbientDecls.Proofs.Build.Kept
import AmbientDecls.Proofs.Files.Growth

/-! Unpacking that fails. Entries are written one after the other where they belong, so an archive that fails in the middle
leaves the directories that were asked for by then, and one of them may be the folder by which a finished archive is known. -/

namespace AmbientDecls

theorem Path.LeadsTo.eq_or_parent {p q : Path} (h : q.LeadsTo p) : q = p ∨ q.LeadsTo p.parent := by
  obtain ⟨slashes, names⟩ := q
  obtain ⟨rfl : slashes = p.slashes, hfront : names <+: p.parts⟩ := h
  rcases List.eq_nil_or_concat' p.parts with hnil | ⟨front, last, hparts⟩
  · rw [hnil, List.prefix_nil] at hfront
    exact Or.inl (by rw [hfront, ← hnil])
  · rw [hparts, List.prefix_concat_iff] at hfront
    rcases hfront with rfl | hfront
    · exact Or.inl (by rw [← hparts])
    · refine Or.inr ⟨rfl, ?_⟩
      rwa [Path.parent, hparts, List.dropLast_concat]

namespace FileTree

variable {t u v : FileTree} {home place : Place} {p q : Path} {asked : Path → Prop}

/-- Directories that are asked for may be there and files may be written. -/
structure Opens (asked : Path → Prop) (t u : FileTree) : Prop extends Grows t u where
  made : ∀ q, u.at? q = some .directory →
    t.at? q = some .directory ∨ ∃ p, asked p ∧ p.placeFrom t.home = q ∧ t.Clear p

theorem Clear.of_opens (hp : u.Clear p) (h : Opens asked t u) : t.Clear p :=
  ⟨hp.1, fun q hq => h.file _ (h.home ▸ hp.2 q hq)⟩

/-- Whether a path is clear is up to the files alone. -/
theorem Clear.of_fileAt (hp : t.Clear p) (hhome : u.home = t.home) (h : ∀ q, u.fileAt q = t.fileAt q) : u.Clear p :=
  ⟨hp.1, fun q hq => by rw [h, hhome, hp.2 q hq]⟩

theorem Opens.refl (asked : Path → Prop) (t : FileTree) : Opens asked t t := ⟨.refl t, fun _ => Or.inl⟩

theorem Opens.trans (htu : Opens asked t u) (huv : Opens asked u v) : Opens asked t v := by
  refine ⟨htu.toGrows.trans huv.toGrows, fun q h => ?_⟩
  rcases huv.made q h with hu | ⟨p, hasked, hplace, hclear⟩
  · exact htu.made q hu
  · exact Or.inr ⟨p, hasked, htu.home ▸ hplace, hclear.of_opens htu⟩

theorem within_opens_makeDirectory (hasked : asked p) (hp : p.Normal) (h : t.makeDirectory p = .ok u) :
    Within home (Opens asked) t u := by
  rintro ⟨rfl, ht⟩
  refine ⟨⟨sameHome_makeDirectory h, ht.makeDirectory h⟩, grows_makeDirectory h, fun q hq => ?_⟩
  obtain ⟨place, hlocate, hat, rfl⟩ := makeDirectory_eq_ok h
  by_cases hsame : q = place
  · exact Or.inr ⟨p, hasked, by rw [hsame, placeFrom_of_locate hlocate], clear_of_locate ht hp hlocate hat⟩
  · rw [at?_set_of_ne hsame] at hq
    exact Or.inl hq

theorem within_opens_write {bytes : Bytes} (h : t.write p bytes = .ok u) : Within home (Opens asked) t u := by
  rintro ⟨rfl, ht⟩
  refine ⟨⟨sameHome_write h, ht.write h⟩, grows_write h, fun q hq => ?_⟩
  obtain ⟨place, _, hat, rfl⟩ := write_eq_ok h
  by_cases hsame : q = place
  · rw [hsame, at?_set_self (ne_nil_of_at? hat)] at hq
    cases hq
  · rw [at?_set_of_ne hsame] at hq
    exact Or.inl hq

theorem contains_iff : t.contains p = true ↔ ∃ q n, t.locate p = .ok q ∧ t.at? q = some n := by
  unfold contains find?
  cases t.locate p with
  | error c => simp
  | ok q => simp [Option.isSome_iff_exists]

theorem makeDirectory_of_locate (h : t.locate p = .ok place) : t.makeDirectory p =
    match t.at? place with
    | some _ => .error .exists
    | none => .ok (t.set place .directory) := by
  unfold makeDirectory
  rw [h]
  rfl

namespace WellFormed

/-- On the way to what is there are directories. -/
theorem directory_of_contains (ht : t.WellFormed) (hp : p.Normal) (h : p.parts = [] ∨ t.contains p = true)
    (hq : q.LeadsTo p) (hclear : t.Clear q) : t.at? (q.placeFrom t.home) = some .directory := by
  rcases h with hnil | hthere
  · refine ht.at?_root ?_
    have hfront := hq.2
    rwa [hnil, List.prefix_nil] at hfront
  · obtain ⟨place, n, hlocate, hat⟩ := contains_iff.mp hthere
    have hplace := placeFrom_of_locate hlocate
    by_cases hsame : q.parts = p.parts
    · have heq : q.placeFrom t.home = place := by
        rw [← hplace, Path.placeFrom, Path.placeFrom, Path.isAbsolute, Path.isAbsolute, hq.1, hsame]
      have hnofile := hclear.2 q (.refl q)
      rw [heq] at hnofile ⊢
      cases n with
      | directory => exact hat
      | file bytes => simp [fileAt, hat] at hnofile
    · rcases hp.prefix_of_leadsTo hq hsame t.home with habove | habove
      · exact ht.above_directory ht.home habove
      · rw [hplace] at habove
        exact ht.above_directory (ht.above_locate hlocate) habove

theorem at?_of_contains (ht : t.WellFormed) (hp : p.Normal) (hfits : p.Fits) (h : t.contains p = false) :
    t.at? (p.placeFrom t.home) = none := by
  by_contra hat
  obtain ⟨n, hn⟩ := Option.ne_none_iff_exists'.mp hat
  rw [contains_iff.mpr ⟨_, n, ht.locate_of_above hp hfits (ht.above hn), hn⟩] at h
  cases h

end WellFormed
end FileTree

namespace Act

open FileTree (Within Opens)

variable {w w' : World} {r : Except Failure Unit} {p q : Path}

theorem change_apply {target : Option Path} (hnul : p.hasNul = false)
    (g : FileTree → Except FileCause FileTree) (w : World) : change p target g w =
      match g w.files with
      | .ok t => (.ok (), { w with files := t })
      | .error c => (.error (.file ⟨c, some p.toText, target.map Path.toText⟩), w) := by
  unfold change
  rw [bind_of_ok (usable_apply hnul w), bind_apply, get_apply]
  simp only
  cases g w.files <;> rfl

theorem opens_of_edits {α : Type} (act : Act α) (asked : Path → Prop) (hw : w.files.WellFormed)
    (h : Edits (Within w.files.home (Opens asked)) act) :
    ((act w).2.files.home = w.files.home ∧ (act w).2.files.WellFormed) ∧ Opens asked w.files (act w).2.files :=
  Within.of_steps (.refl _) (fun _ _ _ => .trans) (h w).files ⟨rfl, hw⟩

section Chain

/-- Directories stay where they are when another one is asked for. -/
theorem directory_makeDirectory {place : Place} (hw : w.files.WellFormed) (hp : p.Normal)
    (h : makeDirectory p w = (r, w')) (hat : w.files.at? place = some .directory) :
    w'.files.at? place = some .directory := by
  have hopens := opens_of_edits (makeDirectory p) (fun _ => True) hw
    (edits_makeDirectory fun t u => FileTree.within_opens_makeDirectory trivial hp)
  rw [h] at hopens
  exact hopens.2.directory place hat

/-- A directory is there after it was asked for, if there is one to make it in and no file in its place. -/
theorem makeDirectory_clear (hw : w.files.WellFormed) (hp : p.Normal) (hnul : p.hasNul = false)
    (hclear : w.files.Clear p)
    (habove : p.parts = [] ∨ w.files.at? (p.parent.placeFrom w.files.home) = some .directory)
    (h : makeDirectory p w = (r, w')) :
    w'.files.at? (p.placeFrom w.files.home) = some .directory ∧
      (w.files.at? (p.placeFrom w.files.home) = none → r = .ok ()) := by
  cases hat : w.files.at? (p.placeFrom w.files.home) with
  | some n =>
    have hnofile := hclear.2 p (.refl p)
    cases n with
    | directory => exact ⟨directory_makeDirectory hw hp h hat, nofun⟩
    | file bytes => simp [FileTree.fileAt, hat] at hnofile
  | none =>
    have hparts : p.parts ≠ [] := by
      intro hnil
      rw [hw.at?_root hnil] at hat
      cases hat
    have hlocate := hw.locate_of_above hp hclear.1 (hw.above_child hparts (habove.resolve_left hparts))
    unfold makeDirectory at h
    rw [change_apply hnul, FileTree.makeDirectory_of_locate hlocate, hat] at h
    cases h
    exact ⟨FileTree.at?_set_self (FileTree.ne_nil_of_at? (t := w.files) (by simp [hat])) _, fun _ => rfl⟩

theorem opens_makeChain (hw : w.files.WellFormed) (hp : p.Normal) {fuel : Nat}
    (h : makeChain fuel p w = (r, w')) :
    (w'.files.home = w.files.home ∧ w'.files.WellFormed) ∧
      Opens (fun q => q.LeadsTo p) w.files w'.files ∧ ∀ place, w'.files.fileAt place = w.files.fileAt place := by
  have hopens := opens_of_edits (makeChain fuel p) (fun q => q.LeadsTo p) hw (edits_makeChain
    (fun q hq t u => FileTree.within_opens_makeDirectory hq (hp.of_leadsTo hq)) fuel)
  have hkept := fun place => (edits_makeChain (p := p)
    (fun q _ t u => FileTree.keeps_makeDirectory w.files.home place) fuel w).keeps ⟨rfl, hw⟩
  rw [h] at hopens hkept
  exact ⟨hopens.1, hopens.2, fun place => (hkept place).2⟩

/-- What leads to the directory above a path does not make the path itself. -/
theorem at?_eq_none_of_opens {v : World} (hw : w.files.WellFormed) (hp : p.Normal) (hparts : p.parts ≠ [])
    (hnone : w.files.at? (p.placeFrom w.files.home) = none)
    (hopens : Opens (fun q => q.LeadsTo p.parent) w.files v.files)
    (hfiles : ∀ place, v.files.fileAt place = w.files.fileAt place) :
    v.files.at? (p.placeFrom w.files.home) = none := by
  cases hat : v.files.at? (p.placeFrom w.files.home) with
  | none => rfl
  | some n =>
    cases n with
    | file bytes =>
      have hfile := hfiles (p.placeFrom w.files.home)
      simp [FileTree.fileAt, hat, hnone] at hfile
    | directory =>
      rcases hopens.made _ hat with hbefore | ⟨q, hq, hplace, _⟩
      · rw [hnone] at hbefore
        cases hbefore
      · have hne : q.parts ≠ p.parts := by
          intro heq
          have hlength := hq.2.length_le
          rw [heq, Path.parent, List.length_dropLast] at hlength
          exact hparts (List.length_eq_zero_iff.mp (by omega))
        have hroot : p.placeFrom w.files.home ≠ [] := FileTree.ne_nil_of_at? (t := w.files) (by simp [hnone])
        rcases hp.prefix_of_leadsTo hq.of_parent hne w.files.home with habove | habove
        · rw [hplace] at habove
          have hthere := hw.above_directory hw.home habove
          rw [hnone] at hthere
          cases hthere
        · have hlength := habove.length_le
          rw [hplace, List.length_dropLast] at hlength
          have hpositive := List.length_pos_iff.mpr hroot
          omega

/-- Of the directories of a chain all are made that no file stands in the way of, and the chain does not fail if that is
true of the last one. -/
theorem makeChain_clear (hw : w.files.WellFormed) (hp : p.Normal) (hnul : p.hasNul = false)
    (h : makeChain p.parts.length p w = (r, w')) :
    (∀ q, q.LeadsTo p → w.files.Clear q → w'.files.at? (q.placeFrom w.files.home) = some .directory) ∧
      (w.files.Clear p → w.files.at? (p.placeFrom w.files.home) = none → r = .ok ()) := by
  generalize hfuel : p.parts.length = fuel at h
  induction fuel generalizing p w' r with
  | zero =>
    have hnil := List.length_eq_zero_iff.mp hfuel
    obtain ⟨_, hopens, _⟩ := opens_makeChain hw hp h
    refine ⟨fun q hq hclear => hopens.directory _ (hw.directory_of_contains hp (Or.inl hnil) hq hclear),
      fun _ hnone => ?_⟩
    rw [hw.at?_root hnil] at hnone
    cases hnone
  | succ fuel ih =>
    obtain ⟨_, hopens, _⟩ := opens_makeChain hw hp h
    have hup := (Path.LeadsTo.refl p.parent).of_parent
    have hparts : p.parts ≠ [] := by
      intro hnil
      rw [hnil] at hfuel
      cases hfuel
    have hparent : p.parent.Normal := hp.of_leadsTo hup
    rcases makeChain_cases h with ⟨hthere, hmake⟩ | ⟨hmissing, result, v, hchain, hend⟩
    · -- the directory above is there, so this is about the last one only
      have hlast := fun hclear => makeDirectory_clear hw hp hnul hclear (Or.inr
        (hw.directory_of_contains hparent hthere (.refl _) (hclear.of_leadsTo hup))) hmake
      refine ⟨fun q hq hclear => ?_, fun hclear => (hlast hclear).2⟩
      rcases hq.eq_or_parent with rfl | hq
      · exact (hlast hclear).1
      · exact hopens.directory _ (hw.directory_of_contains hparent hthere hq hclear)
    · obtain ⟨hmade, hresult⟩ := ih hparent (hasNul_of_leadsTo hnul hup) (by simp [Path.parent, hfuel]) hchain
      obtain ⟨⟨hhome, hv⟩, habove, hfiles⟩ := opens_makeChain hw hparent hchain
      have hlast : w.files.Clear p → makeDirectory p v = (r, w') ∧
          w'.files.at? (p.placeFrom w.files.home) = some .directory ∧
          (v.files.at? (p.placeFrom w.files.home) = none → r = .ok ()) := by
        intro hclear
        have hok : result = .ok () := hresult (hclear.of_leadsTo hup)
          (hw.at?_of_contains hparent (hclear.of_leadsTo hup).1 hmissing.2)
        rcases hend with ⟨_, hmake⟩ | ⟨e, herror, _⟩
        · have hdirectory := hmade p.parent (.refl _) (hclear.of_leadsTo hup)
          have hresult' := makeDirectory_clear hv hp hnul (hclear.of_fileAt hhome hfiles)
            (Or.inr (hhome ▸ hdirectory)) hmake
          rw [hhome] at hresult'
          exact ⟨hmake, hresult'⟩
        · rw [hok] at herror
          cases herror
      refine ⟨fun q hq hclear => ?_, fun hclear hnone => ?_⟩
      · rcases hq.eq_or_parent with rfl | hq
        · exact (hlast hclear).2.1
        · have hbefore := hmade q hq hclear
          rcases hend with ⟨_, hmake⟩ | ⟨_, _, _, rfl⟩
          · exact directory_makeDirectory hv hp hmake hbefore
          · exact hbefore
      · exact (hlast hclear).2.2 (at?_eq_none_of_opens hw hp hparts hnone habove hfiles)

end Chain

section Entries

variable {archive folder : String} {bytes : Bytes} {directory : Path} {all entries : List Zip.Entry} {e : Zip.Entry}

/-- What is done with an entry when the directories above it are there. -/
def placeEntry (archive : String) (bytes : Bytes) (directory : Path) (all : List Zip.Entry)
    (e : Zip.Entry) : Act Unit := do
  let p := entryPath directory e
  if e.isDirectory then
    if !(← look fun t => t.isDirectory p) then makeDirectory p
  else
    let e := e.latest all
    let (method, packed) ← readable archive (e.packed bytes)
    let delivery := e.unpacked method packed
    write p delivery.bytes
    match delivery.fault with
    | none => return
    | some fault => throw (archiveFailure archive fault)

theorem edits_placeEntry {E : FileTree → FileTree → Prop}
    (hmake : e.isDirectory = true → ∀ t u, t.makeDirectory (entryPath directory e) = .ok u → E t u)
    (hwrite : ∀ content t u, t.write (entryPath directory e) content = .ok u → E t u) :
    Edits E (placeEntry archive bytes directory all e) := by
  unfold placeEntry
  cases hdir : e.isDirectory with
  | true =>
    simp only [if_true]
    refine (edits_look _).bind fun made => ?_
    split
    · exact edits_makeDirectory (hmake hdir)
    · exact edits_pure ()
  | false =>
    simp only [Bool.false_eq_true, if_false]
    refine (edits_readable _ _).bind fun packed => ?_
    refine (edits_write (hwrite _)).bind fun _ => ?_
    split
    · exact edits_pure ()
    · exact edits_throw _

theorem unpackEntry_apply (archive : String) (bytes : Bytes) (directory : Path) (all : List Zip.Entry)
    (e : Zip.Entry) (w : World) :
    let above := (entryPath directory e).parent
    unpackEntry archive bytes directory all e w =
      if !above.parts.isEmpty && !w.files.contains above then
        (makeChain above.parts.length above >>= fun _ => placeEntry archive bytes directory all e) w
      else placeEntry archive bytes directory all e w := by
  intro above
  have hlook : look (fun t => t.contains above) w = (.ok (w.files.contains above), w) := rfl
  unfold unpackEntry
  rw [bind_of_ok hlook]
  split <;> rfl

/-- An entry has its turn at once, or after a chain of directories that could be made. -/
theorem unpackEntry_cases (h : unpackEntry archive bytes directory all e w = (r, w')) :
    let above := (entryPath directory e).parent
    ((above.parts = [] ∨ w.files.contains above = true) ∧ placeEntry archive bytes directory all e w = (r, w')) ∨
      w.files.contains above = false ∧ ∃ result v, makeChain above.parts.length above w = (result, v) ∧
        ((∃ f, result = .error f ∧ v = w') ∨
          result = .ok () ∧ placeEntry archive bytes directory all e v = (r, w')) := by
  intro above
  rw [unpackEntry_apply] at h
  split at h
  · rename_i hmissing
    simp only [Bool.and_eq_true, Bool.not_eq_true', List.isEmpty_eq_false_iff] at hmissing
    refine Or.inr ⟨hmissing.2, ?_⟩
    rcases bind_cases h with ⟨f, hchain, _⟩ | ⟨_, v, hchain, hplace⟩
    · exact ⟨_, _, hchain, Or.inl ⟨f, rfl, rfl⟩⟩
    · exact ⟨_, _, hchain, Or.inr ⟨rfl, hplace⟩⟩
  · rename_i hthere
    refine Or.inl ⟨?_, h⟩
    simpa [or_iff_not_imp_left] using hthere

theorem opens_placeEntry (hw : w.files.WellFormed) (h : placeEntry archive bytes directory all e w = (r, w')) :
    Opens (fun _ => True) w.files w'.files := by
  have hopens := opens_of_edits (placeEntry archive bytes directory all e) (fun _ => True) hw (edits_placeEntry
    (fun _ t u => FileTree.within_opens_makeDirectory trivial (normal_entryPath directory e))
    fun _ _ _ => FileTree.within_opens_write)
  rw [h] at hopens
  exact hopens.2

theorem placeEntry_file {method : Zip.Method} {packed : Bytes} (hdir : e.isDirectory = false)
    (hpacked : (e.latest all).packed bytes = .ok (method, packed))
    (hfault : ((e.latest all).unpacked method packed).fault = none) :
    placeEntry archive bytes directory all e w =
      write (entryPath directory e) ((e.latest all).unpacked method packed).bytes w := by
  have hread : readable archive ((e.latest all).packed bytes) w = (.ok (method, packed), w) := by
    rw [hpacked]
    rfl
  unfold placeEntry
  simp only [hdir, Bool.false_eq_true, if_false]
  rw [bind_of_ok hread]
  simp only [hfault]
  rw [bind_apply]
  rcases write (entryPath directory e) ((e.latest all).unpacked method packed).bytes w with ⟨_ | _, _⟩ <;> rfl

theorem placeEntry_directory (hw : w.files.WellFormed) (hnul : directory.hasNul = false)
    (hdir : e.isDirectory = true) (hclear : w.files.Clear (entryPath directory e))
    (habove : (entryPath directory e).parts = [] ∨
      w.files.at? ((entryPath directory e).parent.placeFrom w.files.home) = some .directory)
    (h : placeEntry archive bytes directory all e w = (r, w')) :
    w'.files.at? ((entryPath directory e).placeFrom w.files.home) = some .directory := by
  have hlook : look (fun t => t.isDirectory (entryPath directory e)) w =
    (.ok (w.files.isDirectory (entryPath directory e)), w) := rfl
  unfold placeEntry at h
  simp only [hdir, if_true] at h
  rw [bind_of_ok hlook] at h
  split at h
  · exact (makeDirectory_clear hw (normal_entryPath directory e) (hasNul_entryPath hnul e) hclear habove h).1
  · rename_i hthere
    cases h
    have hfind : w.files.find? (entryPath directory e) = some .directory := by
      simpa [FileTree.isDirectory] using hthere
    unfold FileTree.find? at hfind
    cases hlocate : w.files.locate (entryPath directory e) with
    | error c =>
      rw [hlocate] at hfind
      cases hfind
    | ok place =>
      rw [hlocate] at hfind
      rw [FileTree.placeFrom_of_locate hlocate]
      exact hfind

theorem edits_opens_unpackEntry {home : Place} {asked : Path → Prop}
    (h : ∀ q, Asked directory e q → asked q) :
    Edits (Within home (Opens asked)) (unpackEntry archive bytes directory all e) :=
  edits_unpackEntry
    (fun q hq _ _ => FileTree.within_opens_makeDirectory (h q hq) ((normal_entryPath directory e).of_leadsTo hq.leadsTo))
    fun _ _ _ _ => FileTree.within_opens_write

/-- The directories that are there after the turn of an entry are those that were there, and those that the entry asks for
and no file stands in the way of, even if the entry itself cannot be written. -/
theorem at?_unpackEntry (hw : w.files.WellFormed) (hnul : directory.hasNul = false)
    (h : unpackEntry archive bytes directory all e w = (r, w')) (place : Place) :
    w'.files.at? place = some .directory ↔ w.files.at? place = some .directory ∨
      ∃ p, Asked directory e p ∧ p.placeFrom w.files.home = place ∧ w.files.Clear p := by
  have hnormal := normal_entryPath directory e
  have hopens := opens_of_edits (unpackEntry archive bytes directory all e) (Asked directory e) hw
    (edits_opens_unpackEntry fun _ => id)
  rw [h] at hopens
  refine ⟨hopens.2.made place, ?_⟩
  rintro (hthere | ⟨p, hasked, rfl, hclear⟩)
  · exact hopens.2.directory place hthere
  · have hup := (Path.LeadsTo.refl (entryPath directory e).parent).of_parent
    have hparent := hnormal.of_leadsTo hup
    rcases unpackEntry_cases h with ⟨hthere, hplace⟩ | ⟨hmissing, result, v, hchain, hend⟩
    · rcases hasked with hq | ⟨hdir, rfl⟩
      · exact (opens_placeEntry hw hplace).directory _ (hw.directory_of_contains hparent hthere hq hclear)
      · exact placeEntry_directory hw hnul hdir hclear
          (Or.inr (hw.directory_of_contains hparent hthere (.refl _) (hclear.of_leadsTo hup))) hplace
    · obtain ⟨⟨hhome, hv⟩, -, hfiles⟩ := opens_makeChain hw hparent hchain
      obtain ⟨hmade, hresult⟩ := makeChain_clear hw hparent (hasNul_of_leadsTo (hasNul_entryPath hnul e) hup) hchain
      rcases hasked with hq | ⟨hdir, rfl⟩
      · have hbefore := hmade p hq hclear
        rcases hend with ⟨_, _, rfl⟩ | ⟨_, hplace⟩
        · exact hbefore
        · exact (opens_placeEntry hv hplace).directory _ hbefore
      · -- an entry that is a directory itself is met after the chain, which does not fail here
        have hok : result = .ok () := hresult (hclear.of_leadsTo hup)
          (hw.at?_of_contains hparent (hclear.of_leadsTo hup).1 hmissing)
        rcases hend with ⟨f, herror, _⟩ | ⟨_, hplace⟩
        · rw [hok] at herror
          cases herror
        · have hmade' := placeEntry_directory hv hnul hdir (hclear.of_fileAt hhome hfiles)
            (Or.inr (hhome ▸ hmade _ (.refl _) (hclear.of_leadsTo hup))) hplace
          rwa [hhome] at hmade'

theorem wellFormed_unpackEntry (hw : w.files.WellFormed)
    (h : unpackEntry archive bytes directory all e w = (r, w')) :
    w'.files.home = w.files.home ∧ w'.files.WellFormed := by
  have hopens := opens_of_edits (unpackEntry archive bytes directory all e) (fun _ => True) hw
    (edits_opens_unpackEntry fun _ _ => trivial)
  rw [h] at hopens
  exact hopens.1

theorem home_forM_unpackEntry (hw : w.files.WellFormed)
    (h : entries.forM (unpackEntry archive bytes directory all) w = (r, w')) :
    w'.files.home = w.files.home := by
  have hopens := opens_of_edits (entries.forM (unpackEntry archive bytes directory all)) (fun _ => True) hw
    (edits_forM fun e _ => edits_opens_unpackEntry fun _ _ => trivial)
  rw [h] at hopens
  exact hopens.1.1

/-- Whether the turn of an entry comes that asks for a directory at a place, with no file in the way at that time. -/
def Opened (archive : String) (bytes : Bytes) (directory : Path) (all entries : List Zip.Entry) (w : World)
    (place : Place) : Prop :=
  ∃ before e after v p, entries = before ++ e :: after ∧
    before.forM (unpackEntry archive bytes directory all) w = (.ok (), v) ∧
    Asked directory e p ∧ p.placeFrom w.files.home = place ∧ v.files.Clear p

theorem not_opened_nil (place : Place) : ¬ Opened archive bytes directory all [] w place := by
  rintro ⟨before, e, after, v, p, hsplit, _⟩
  simp at hsplit

/-- The first turn is that of the first entry, and a later one comes only after it has succeeded. -/
theorem opened_cons_iff (hw : w.files.WellFormed) {place : Place} :
    Opened archive bytes directory all (e :: entries) w place ↔
      (∃ p, Asked directory e p ∧ p.placeFrom w.files.home = place ∧ w.files.Clear p) ∨
        ∃ v, unpackEntry archive bytes directory all e w = (.ok (), v) ∧
          Opened archive bytes directory all entries v place := by
  constructor
  · rintro ⟨before, d, after, v, p, hsplit, hbefore, hasked⟩
    cases before with
    | nil =>
      obtain ⟨rfl, rfl⟩ := List.cons.inj hsplit
      cases hbefore
      exact Or.inl ⟨p, hasked⟩
    | cons d' before =>
      obtain ⟨rfl, rfl⟩ := List.cons.inj hsplit
      obtain ⟨_, u, hfirst, hrest⟩ := bind_eq_ok (f := fun _ =>
        before.forM (unpackEntry archive bytes directory all)) hbefore
      refine Or.inr ⟨u, hfirst, before, d, after, v, p, rfl, hrest, ?_⟩
      rwa [(wellFormed_unpackEntry hw hfirst).1]
  · rintro (⟨p, hasked⟩ | ⟨u, hfirst, before, d, after, v, p, rfl, hrest, hasked⟩)
    · exact ⟨[], e, entries, w, p, rfl, rfl, hasked⟩
    · refine ⟨e :: before, d, after, v, p, rfl, ?_, ?_⟩
      · change (unpackEntry archive bytes directory all e >>= fun _ =>
          before.forM (unpackEntry archive bytes directory all)) w = _
        rw [bind_of_ok hfirst, hrest]
      · rwa [(wellFormed_unpackEntry hw hfirst).1] at hasked

/-- The directories that are there after some entries had their turns, whether or not the last one failed. -/
theorem at?_forM_unpackEntry (hw : w.files.WellFormed) (hnul : directory.hasNul = false)
    (h : entries.forM (unpackEntry archive bytes directory all) w = (r, w')) (place : Place) :
    w'.files.at? place = some .directory ↔
      w.files.at? place = some .directory ∨ Opened archive bytes directory all entries w place := by
  induction entries generalizing w with
  | nil =>
    cases h
    exact ⟨Or.inl, fun h => h.resolve_right (not_opened_nil place)⟩
  | cons e entries ih =>
    change (unpackEntry archive bytes directory all e >>= fun _ =>
      entries.forM (unpackEntry archive bytes directory all)) w = _ at h
    rw [opened_cons_iff hw, ← or_assoc]
    rcases bind_cases h with ⟨f, hfirst, _⟩ | ⟨_, v, hfirst, hrest⟩
    · rw [← at?_unpackEntry hw hnul hfirst place]
      refine ⟨Or.inl, fun h => h.resolve_right ?_⟩
      rintro ⟨v, hok, _⟩
      rw [hfirst] at hok
      cases hok
    · rw [← at?_unpackEntry hw hnul hfirst place, ih (wellFormed_unpackEntry hw hfirst).2 hrest]
      refine or_congr_right ⟨fun h => ⟨v, hfirst, h⟩, ?_⟩
      rintro ⟨u, hfirst', hopened'⟩
      rw [hfirst] at hfirst'
      cases hfirst'
      exact hopened'

end Entries

section Folder

variable {archive folder : String} {directory : Path} {f : Failure}

/-- An archive that can be read and has no entry outside of the directory. -/
structure Admitted (archive : String) (directory : Path) (w : World) (bytes : Bytes)
    (entries : List Zip.Entry) : Prop where
  usable : directory.hasNul = false
  read : (readNamed archive w).1 = .ok bytes
  listed : Zip.entries bytes = .ok entries
  inside : ∀ e ∈ entries, confined w.files.home directory e = true

theorem unpack_of_admitted {bytes : Bytes} {entries : List Zip.Entry}
    (hnew : (isDirectory (directory.child folder) w).1 = .ok false)
    (h : Admitted archive directory w bytes entries) :
    unpack archive directory folder w = unpackAll archive bytes directory folder entries w := by
  have hfind : (entries.find? fun e => !confined w.files.home directory e) = none := by
    refine List.find?_eq_none.mpr fun e he => ?_
    simp [h.inside e he]
  rw [unpack_apply hnew h.usable h.read h.listed, hfind]

theorem unpack_of_directory (archive : String) (h : (isDirectory (directory.child folder) w).1 = .ok true) :
    ∃ log, unpack archive directory folder w = (.ok (directory.child folder), { w with log := log }) := by
  unfold unpack
  rw [bind_of_ok (isDirectory_eq h)]
  exact ⟨_, rfl⟩

/-- An archive is refused before anything is written, or it is gone through. -/
theorem unpack_cases {r : Except Failure Path} (hnew : (isDirectory (directory.child folder) w).1 ≠ .ok true)
    (h : unpack archive directory folder w = (r, w')) :
    (w' = w ∧ (∃ f, r = .error f) ∧ ((isDirectory (directory.child folder) w).1 = .ok false →
        ¬ ∃ bytes entries, Admitted archive directory w bytes entries)) ∨
      ∃ bytes entries, Admitted archive directory w bytes entries ∧
        unpackAll archive bytes directory folder entries w = (r, w') := by
  by_cases hfalse : (isDirectory (directory.child folder) w).1 = .ok false
  · by_cases hadmitted : ∃ bytes entries, Admitted archive directory w bytes entries
    · obtain ⟨bytes, entries, hadmitted⟩ := hadmitted
      exact Or.inr ⟨bytes, entries, hadmitted, unpack_of_admitted hfalse hadmitted ▸ h⟩
    · unfold unpack at h
      rw [bind_of_ok (isDirectory_eq hfalse)] at h
      simp only [Bool.false_eq_true, if_false] at h
      left
      rcases bind_cases h with ⟨e, husable, rfl⟩ | ⟨_, v, husable, hread⟩
      · exact ⟨by rw [← usable_world directory w, husable], ⟨e, rfl⟩, fun _ => hadmitted⟩
      · obtain ⟨hnul, rfl⟩ := usable_eq_ok husable
        rcases bind_cases hread with ⟨e, hbytes, rfl⟩ | ⟨bytes, u, hbytes, hlist⟩
        · exact ⟨by rw [← readNamed_world archive v, hbytes], ⟨e, rfl⟩, fun _ => hadmitted⟩
        · obtain rfl : u = v := by rw [← readNamed_world archive v, hbytes]
          cases hentries : Zip.entries bytes with
          | error fault =>
            rw [hentries] at hlist
            cases hlist
            exact ⟨rfl, ⟨_, rfl⟩, fun _ => hadmitted⟩
          | ok entries =>
            have hlisted : readable archive (Zip.entries bytes) u = (.ok entries, u) := by rw [hentries]; rfl
            have hlook : look (fun t => t.home) u = (.ok u.files.home, u) := rfl
            rw [bind_of_ok hlisted, bind_of_ok hlook] at hlist
            cases hfind : entries.find? fun e => !confined u.files.home directory e with
            | some e =>
              rw [hfind] at hlist
              cases hlist
              exact ⟨rfl, ⟨_, rfl⟩, fun _ => hadmitted⟩
            | none =>
              refine absurd ⟨bytes, entries, hnul, by rw [hbytes], hentries, fun e he => ?_⟩ hadmitted
              simpa using List.find?_eq_none.mp hfind e he
  · unfold unpack at h
    rcases bind_cases h with ⟨e, herror, rfl⟩ | ⟨there, v, hthere, _⟩
    · refine Or.inl ⟨?_, ⟨e, rfl⟩, fun heq => absurd heq hfalse⟩
      rw [← isDirectory_world (directory.child folder) w, herror]
    · rw [hthere] at hnew hfalse
      cases there with
      | false => exact absurd rfl hfalse
      | true => exact absurd rfl hnew

theorem unpackAll_cases {bytes : Bytes} {entries : List Zip.Entry} {r : Except Failure Path}
    (h : unpackAll archive bytes directory folder entries w = (r, w')) :
    ∃ r', entries.forM (unpackEntry archive bytes directory entries) w = (r', w') ∧
      ((∃ p, r = .ok p) → (isDirectory (directory.child folder) w').1 = .ok true) := by
  rcases bind_cases h with ⟨e, hentries, rfl⟩ | ⟨u, v, hentries, hrest⟩
  · exact ⟨_, hentries, nofun⟩
  · rcases bind_cases hrest with ⟨e, hthere, rfl⟩ | ⟨there, v', hthere, hend⟩
    · obtain rfl : w' = v := by rw [← isDirectory_world (directory.child folder) v, hthere]
      exact ⟨_, hentries, nofun⟩
    · obtain rfl : v' = v := by rw [← isDirectory_world (directory.child folder) v, hthere]
      cases there with
      | true =>
        cases hend
        exact ⟨_, hentries, fun _ => by rw [hthere]⟩
      | false =>
        cases hend
        exact ⟨_, hentries, nofun⟩

/-- Unpacking succeeds only if the folder is there in the end. -/
theorem unpack_eq_ok {p : Path} (h : unpack archive directory folder w = (.ok p, w')) :
    (isDirectory (directory.child folder) w').1 = .ok true := by
  by_cases hthere : (isDirectory (directory.child folder) w).1 = .ok true
  · obtain ⟨log, hskipped⟩ := unpack_of_directory archive hthere
    rw [hskipped] at h
    cases h
    have hsame : ({ w with log := log } : World).files = w.files := rfl
    exact (isDirectory_congr _ hsame).trans hthere
  · rcases unpack_cases hthere h with ⟨_, ⟨f, hf⟩, _⟩ | ⟨bytes, entries, _, hall⟩
    · cases hf
    · obtain ⟨_, _, hmade⟩ := unpackAll_cases hall
      exact hmade ⟨p, rfl⟩

/-- Unpacking returns and changes nothing but the log exactly if the folder is there. -/
theorem unpack_skipped_iff :
    (∃ log, unpack archive directory folder w = (.ok (directory.child folder), { w with log := log })) ↔
      (isDirectory (directory.child folder) w).1 = .ok true := by
  refine ⟨fun ⟨log, h⟩ => ?_, unpack_of_directory archive⟩
  have hsame : ({ w with log := log } : World).files = w.files := rfl
  exact (isDirectory_congr _ hsame).symm.trans (unpack_eq_ok h)

/-- Unpacking that fails leaves the folder exactly if the archive can be read and has no entry outside of the directory, the
folder can be followed, and it was there in another way already or the turn of an entry has come that asks for it. A folder
that is left is returned as it is when the archive is unpacked again. -/
theorem failed_unpack_left_iff (hw : w.files.WellFormed)
    (hfail : unpack archive directory folder w = (.error f, w')) :
    let target := directory.child folder
    let place := target.placeFrom w.files.home
    ((isDirectory target w').1 = .ok true ↔
      ∃ bytes entries, Admitted archive directory w bytes entries ∧
        target.hasNul = false ∧ w'.files.locate target = .ok place ∧
        (w.files.at? place = some .directory ∨ Opened archive bytes directory entries entries w place)) ∧
    ((∃ log, unpack archive directory folder w' = (.ok target, { w' with log := log })) ↔
      (isDirectory target w').1 = .ok true) := by
  intro target place
  refine ⟨?_, unpack_skipped_iff⟩
  have hnew : (isDirectory target w).1 ≠ .ok true := by
    intro hthere
    obtain ⟨log, hok⟩ := unpack_of_directory archive hthere
    rw [hfail] at hok
    cases hok
  rcases unpack_cases hnew hfail with ⟨rfl, _, hrefused⟩ | ⟨bytes, entries, hadmitted, hall⟩
  · refine iff_of_false hnew ?_
    rintro ⟨bytes, entries, hadmitted, hnul, hlocate, _⟩
    have hthere := isDirectory_of_locate hnul hlocate
    refine hrefused ?_ ⟨bytes, entries, hadmitted⟩
    cases hat : w'.files.at? place == some .directory with
    | true => exact absurd (hthere.trans (congrArg _ hat)) hnew
    | false => exact hthere.trans (congrArg _ hat)
  · obtain ⟨r', hentries, _⟩ := unpackAll_cases hall
    have hplaces := at?_forM_unpackEntry hw hadmitted.usable hentries place
    have hhome := home_forM_unpackEntry hw hentries
    rw [isDirectory_iff]
    constructor
    · rintro ⟨hnul, q, hlocate, hat⟩
      obtain rfl : place = q := by
        rw [← FileTree.placeFrom_of_locate hlocate, hhome]
      exact ⟨bytes, entries, hadmitted, hnul, hlocate, hplaces.mp hat⟩
    · rintro ⟨bytes', entries', hadmitted', hnul, hlocate, hopened⟩
      obtain rfl : bytes = bytes' := Except.ok.inj (hadmitted.read.symm.trans hadmitted'.read)
      obtain rfl : entries = entries' := Except.ok.inj (hadmitted.listed.symm.trans hadmitted'.listed)
      exact ⟨hnul, place, hlocate, hplaces.mpr hopened⟩

/-! An archive whose second entry lies below its first one, which is a file. -/

def nestedArchive : Bytes := Zip.encode [⟨"e/a", []⟩, ⟨"e/a/b", []⟩]

def nestedFirst : Zip.Entry := ⟨"e/a", 0, 0, 0, 0, 0, 0, 33⟩

def nestedSecond : Zip.Entry := ⟨"e/a/b", 0, 0, 0, 0, 0, 33, 68⟩

/-- A host with an archive and with what was unpacked up to now. -/
def unpackedHost (bytes : Bytes) (nodes : List (Place × Node)) : World where
  files := ⟨nodes ++ [(["z.zip"], .file bytes)], []⟩
  clock := ⟨2024, 1, 2, 3, 4, 5, 0, none⟩

def nestedNodes : List (Place × Node) :=
  [(["out", "e", "a"], .file []), (["out", "e"], .directory), (["out"], .directory)]

theorem admitted_nested : Admitted "z.zip" ⟨0, ["out"]⟩ (unpackedHost nestedArchive []) nestedArchive
    [nestedFirst, nestedSecond] where
  usable := by cbv
  read := by cbv
  listed := by decide +kernel
  inside := by decide +kernel

theorem unpackEntry_nestedFirst : unpackEntry "z.zip" nestedArchive ⟨0, ["out"]⟩ [nestedFirst, nestedSecond]
    nestedFirst (unpackedHost nestedArchive []) = (.ok (), unpackedHost nestedArchive nestedNodes) := by
  have hplace : entryPath ⟨0, ["out"]⟩ nestedFirst = ⟨0, ["out", "e", "a"]⟩ := by decide +kernel
  have hlatest : nestedFirst.latest [nestedFirst, nestedSecond] = nestedFirst := by decide +kernel
  have hpacked : nestedFirst.packed nestedArchive = .ok (.stored, []) := by decide +kernel
  -- the archive is not looked into while directories are made and a file is written
  have hchain : ∀ bytes, makeChain 2 ⟨0, ["out", "e"]⟩ (unpackedHost bytes []) =
      (.ok (), unpackedHost bytes [(["out", "e"], .directory), (["out"], .directory)]) := by
    intro bytes
    cbv
  have hwrite : ∀ bytes, write ⟨0, ["out", "e", "a"]⟩ []
      (unpackedHost bytes [(["out", "e"], .directory), (["out"], .directory)]) =
        (.ok (), unpackedHost bytes nestedNodes) := by
    intro bytes
    cbv
  have hmissing : ∀ bytes, (unpackedHost bytes []).files.contains ⟨0, ["out", "e"]⟩ = false := by
    intro bytes
    cbv
  rw [unpackEntry_apply, hplace]
  change (if !false && !(unpackedHost nestedArchive []).files.contains ⟨0, ["out", "e"]⟩ then
    (makeChain 2 ⟨0, ["out", "e"]⟩ >>= fun _ => _) (unpackedHost nestedArchive []) else _) = _
  rw [hmissing, if_pos (by decide), bind_of_ok (hchain _), placeEntry_file (by decide +kernel) (hlatest.symm ▸ hpacked)
    (by rw [hlatest]; decide +kernel), hplace, hlatest]
  exact hwrite _

theorem unpackEntry_nestedSecond : unpackEntry "z.zip" nestedArchive ⟨0, ["out"]⟩ [nestedFirst, nestedSecond]
    nestedSecond (unpackedHost nestedArchive nestedNodes) =
      (.error (.file ⟨.notADirectory, some "out/e/a/b", none⟩), unpackedHost nestedArchive nestedNodes) := by
  have hplace : entryPath ⟨0, ["out"]⟩ nestedSecond = ⟨0, ["out", "e", "a", "b"]⟩ := by decide +kernel
  have hlatest : nestedSecond.latest [nestedFirst, nestedSecond] = nestedSecond := by decide +kernel
  have hpacked : nestedSecond.packed nestedArchive = .ok (.stored, []) := by decide +kernel
  have hthere : ∀ bytes, (unpackedHost bytes nestedNodes).files.contains ⟨0, ["out", "e", "a"]⟩ = true := by
    intro bytes
    cbv
  have hwrite : ∀ bytes, write ⟨0, ["out", "e", "a", "b"]⟩ [] (unpackedHost bytes nestedNodes) =
      (.error (.file ⟨.notADirectory, some "out/e/a/b", none⟩), unpackedHost bytes nestedNodes) := by
    intro bytes
    cbv
  rw [unpackEntry_apply, hplace]
  change (if !false && !(unpackedHost nestedArchive nestedNodes).files.contains ⟨0, ["out", "e", "a"]⟩ then
    _ else placeEntry _ _ _ _ _ _) = _
  rw [hthere, if_neg (by decide), placeEntry_file (by decide +kernel) (hlatest.symm ▸ hpacked)
    (by rw [hlatest]; decide +kernel), hplace, hlatest]
  exact hwrite _

theorem unpack_nested : unpack "z.zip" ⟨0, ["out"]⟩ "e" (unpackedHost nestedArchive []) =
    (.error (.file ⟨.notADirectory, some "out/e/a/b", none⟩), unpackedHost nestedArchive nestedNodes) := by
  have hnew : (isDirectory ((⟨0, ["out"]⟩ : Path).child "e") (unpackedHost nestedArchive [])).1 = .ok false := by cbv
  have hentries : [nestedFirst, nestedSecond].forM
      (unpackEntry "z.zip" nestedArchive ⟨0, ["out"]⟩ [nestedFirst, nestedSecond])
      (unpackedHost nestedArchive []) = (.error (.file ⟨.notADirectory, some "out/e/a/b", none⟩),
        unpackedHost nestedArchive nestedNodes) := by
    change (unpackEntry _ _ _ _ nestedFirst >>= fun _ => unpackEntry _ _ _ _ nestedSecond >>= fun _ => pure ()) _ = _
    rw [bind_of_ok unpackEntry_nestedFirst, bind_apply, unpackEntry_nestedSecond]
  rw [unpack_of_admitted hnew admitted_nested]
  unfold unpackAll
  rw [bind_apply, hentries]

theorem wellFormed_unpackedHost (bytes : Bytes) : (unpackedHost bytes []).files.WellFormed := by
  refine .of_nodes rfl fun e he => ?_
  obtain rfl := List.mem_singleton.mp he
  rfl

theorem failed_unpack_left_iff_nested :
    ((unpackedHost nestedArchive []).files.WellFormed ∧
      unpack "z.zip" ⟨0, ["out"]⟩ "e" (unpackedHost nestedArchive []) =
        (.error (.file ⟨.notADirectory, some "out/e/a/b", none⟩), unpackedHost nestedArchive nestedNodes)) ∧
    ∃ bytes entries, Admitted "z.zip" ⟨0, ["out"]⟩ (unpackedHost nestedArchive []) bytes entries ∧
      Opened "z.zip" bytes ⟨0, ["out"]⟩ entries entries (unpackedHost nestedArchive []) ["out", "e"] := by
  have hw := wellFormed_unpackedHost nestedArchive
  have hleft : ∀ bytes, (isDirectory ((⟨0, ["out"]⟩ : Path).child "e") (unpackedHost bytes nestedNodes)).1 =
      .ok true := by
    intro bytes
    cbv
  have hplace : ((⟨0, ["out"]⟩ : Path).child "e").placeFrom (unpackedHost nestedArchive []).files.home =
      ["out", "e"] := by
    cbv
  have hnone : ∀ bytes, (unpackedHost bytes []).files.at? ["out", "e"] ≠ some .directory := by
    intro bytes
    cbv
    rintro ⟨⟩
  obtain ⟨hiff, -⟩ := failed_unpack_left_iff hw unpack_nested
  rw [hplace] at hiff
  obtain ⟨bytes, entries, hadmitted, _, _, hthere⟩ := hiff.mp (hleft _)
  exact ⟨⟨hw, unpack_nested⟩, bytes, entries, hadmitted, hthere.resolve_left (hnone _)⟩

/-- The folder of an archive that cannot be unpacked is there, and the next try takes it for all of the archive. -/
theorem failed_unpack_leaves_folder :
    let unpacked := unpack "z.zip" ⟨0, ["out"]⟩ "e"
    let w := unpackedHost nestedArchive []
    (unpacked w).1 = .error (.file ⟨.notADirectory, some "out/e/a/b", none⟩) ∧
      (isDirectory ((⟨0, ["out"]⟩ : Path).child "e") (unpacked w).2).1 = .ok true ∧
      (unpacked (unpacked w).2).1 = .ok ((⟨0, ["out"]⟩ : Path).child "e") := by
  intro unpacked w
  have hleft : ∀ bytes, (isDirectory ((⟨0, ["out"]⟩ : Path).child "e") (unpackedHost bytes nestedNodes)).1 =
      .ok true := by
    intro bytes
    cbv
  have hfailed : unpacked w = _ := unpack_nested
  obtain ⟨log, hagain⟩ := unpack_of_directory "z.zip" (hleft nestedArchive)
  rw [hfailed]
  exact ⟨rfl, hleft _, congrArg Prod.fst hagain⟩

end Folder

end Act
end AmbientDecls
