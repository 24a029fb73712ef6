import AmbientDecls.Proofs.Build.Kept
import AmbientDecls.Proofs.Build.Outcomes
import AmbientDecls.Proofs.Build.Places

/-! Downloads are complete or leave the archive as it was. What is streamed has a name of its own beside the archive, and
only a stream that came to its end is given the name of the archive. -/

namespace AmbientDecls

theorem Path.mem_partsOf {s : List Char} {n : String} (h : n ∈ partsOf s) :
    '/' ∉ n.toList ∧ n ≠ "" ∧ n ≠ "." := by
  obtain ⟨piece, hpiece, rfl⟩ := List.mem_map.mp h
  obtain ⟨hmem, hkept⟩ := List.mem_filter.mp hpiece
  simp only [Bool.and_eq_true, Bool.not_eq_true', List.isEmpty_eq_false_iff, bne_iff_ne, ne_eq] at hkept
  refine ⟨?_, fun hempty => hkept.1 ?_, fun hdot => hkept.2 ?_⟩
  · rw [String.toList_ofList]
    exact Text.not_mem_of_mem_pieces hmem
  · simpa using congrArg String.toList hempty
  · simpa using congrArg String.toList hdot

/-- The name of an archive is a single name. -/
theorem Url.name_of_archiveName {url name : String} (h : archiveName url = .ok name) :
    '/' ∉ name.toList ∧ name ≠ "" ∧ name ≠ "." := by
  unfold archiveName at h
  cases hpath : path url with
  | error fault =>
    rw [hpath] at h
    cases h
  | ok s =>
    rw [hpath] at h
    obtain rfl := Except.ok.inj h
    split
    · decide
    · rename_i hname
      unfold Path.name at hname ⊢
      cases hlast : (Path.ofText (String.ofList s)).parts.getLast? with
      | none =>
        rw [List.getLastD_eq_getLast?, hlast] at hname
        exact absurd rfl hname
      | some n =>
        rw [List.getLastD_eq_getLast?, hlast]
        exact Path.mem_partsOf (List.mem_of_getLast? hlast)

namespace Act

section Places

variable {name : String} (hname : '/' ∉ name.toList ∧ name ≠ "" ∧ name ≠ ".") (directory : Path) (home : Place)

include hname

theorem placeFrom_child : (directory.child name).placeFrom home =
    FileTree.below (directory.placeFrom home) name := by
  rw [Path.child_of_name hname.1 hname.2.1 hname.2.2]
  unfold Path.placeFrom
  rw [List.foldl_append]
  rfl

theorem partPath_child : partPath (directory.child name) =
    ⟨directory.slashes, directory.parts ++ [name ++ ".part"]⟩ := by
  rw [Path.child_of_name hname.1 hname.2.1 hname.2.2]
  simp [partPath, Path.withName, Path.name]

theorem placeFrom_partPath : (partPath (directory.child name)).placeFrom home =
    directory.placeFrom home ++ [name ++ ".part"] := by
  have hdots : name ++ ".part" ≠ ".." := append_ne_of_length_lt (by decide)
  rw [partPath_child hname, Path.placeFrom_concat _ hdots]

/-- The archive is neither the file that is streamed to nor below it. -/
theorem partPath_not_above :
    ¬ (partPath (directory.child name)).placeFrom home <+: (directory.child name).placeFrom home := by
  rw [placeFrom_partPath hname, placeFrom_child hname, FileTree.below]
  intro hprefix
  split at hprefix
  · have hlength := hprefix.length_le
    simp only [List.length_append, List.length_singleton, List.length_dropLast] at hlength
    omega
  · have heq := hprefix.eq_of_length (by simp)
    simp at heq

end Places

section Stream

variable {w w' : World} {url : String} {timeout : Float} {file : Path} {r : Except Failure Unit}

/-- How the tree ends if the file that is streamed to is taken away. -/
def Discarded (file : Path) (t u : FileTree) : Prop :=
  t.unlink file = .ok u ∨ t.unlink file = .error .notFound ∧ u = t

/-- What a stream may have written when it breaks off. -/
def Begun (file : Path) (t u : FileTree) : Prop := u = t ∨ ∃ bytes, t.write file bytes = .ok u

/-- How a stream ends that breaks off: what it wrote is left, or is taken away. -/
def BrokenOff (file : Path) (w : World) (r : Except Failure Unit) (w' : World) : Prop :=
  (∃ f, r = .error f ∧ (∀ g, f ≠ .tool g) ∧ Begun file w.files w'.files) ∨
    ∃ g t, r = .error (.tool g) ∧ Begun file w.files t ∧ Discarded file t w'.files

theorem discard_eq_ok (h : discard file w = (.ok (), w')) : Discarded file w.files w'.files := by
  obtain ⟨_, hchange⟩ := change_eq_ok h
  split at hchange
  · rename_i hunlink
    exact Or.inr ⟨hunlink, (Except.ok.inj hchange).symm⟩
  · exact Or.inl hchange

/-- A change of files fails by itself, never as a tool does. -/
theorem plain_change (p : Path) (target : Option Path) (g : FileTree → Except FileCause FileTree) :
    Fails (fun f => ∀ tool, f ≠ .tool tool) (change p target g) :=
  fails_change nofun (fun _ => nofun) p target g

theorem brokenOff_of_discard {message : String} {v : World} (hbegun : Begun file w.files v.files)
    (h : (do discard file; throw (downloadFailure url message) : Act Unit) v = (r, w')) :
    BrokenOff file w r w' := by
  rcases bind_cases h with ⟨f, hdiscard, rfl⟩ | ⟨_, u, hdiscard, hthrow⟩
  · have hfiles : w'.files = v.files := congrArg World.files (change_eq_error hdiscard)
    exact Or.inl ⟨f, rfl, (plain_change file none _).of_eq hdiscard, hfiles ▸ hbegun⟩
  · cases hthrow
    exact Or.inr ⟨_, v.files, rfl, hbegun, discard_eq_ok hdiscard⟩

/-- A stream is complete, or breaks off before or after it wrote a part that is then taken away. -/
theorem stream_cases (h : stream url timeout file w = (r, w')) :
    (∃ chunks, w.transfers.head? = some (.body chunks none) ∧ r = .ok () ∧
      w.files.write file chunks.flatten = .ok w'.files) ∨ BrokenOff file w r w' := by
  unfold stream at h
  rw [bind_of_ok (World.nextTransfer_apply url timeout w)] at h
  -- a request does not change the files
  obtain ⟨u, hu, hfiles⟩ : ∃ u : World, u = { w with
      requests := w.requests ++ [⟨url, timeout⟩], transfers := w.transfers.tail } ∧ u.files = w.files :=
    ⟨_, rfl, rfl⟩
  rw [← hu] at h
  cases hnext : w.transfers.headD (.refused w.laterTransfers) with
  | refused message | rejected message =>
    rw [hnext] at h
    exact Or.inr (brokenOff_of_discard (Or.inl hfiles) h)
  | body chunks fault =>
    rw [hnext] at h
    rcases bind_cases h with ⟨f, hwrite, rfl⟩ | ⟨_, v, hwrite, hrest⟩
    · refine Or.inr (Or.inl ⟨f, rfl, ?_, Or.inl ?_⟩)
      · exact (plain_change file none _).of_eq hwrite
      · rw [change_eq_error hwrite, hfiles]
    · have hwritten : w.files.write file chunks.flatten = .ok v.files := hfiles ▸ (change_eq_ok hwrite).2
      cases fault with
      | none =>
        cases hrest
        refine Or.inl ⟨chunks, ?_, rfl, hwritten⟩
        cases htransfers : w.transfers with
        | nil =>
          rw [htransfers] at hnext
          cases hnext
        | cons t rest =>
          rw [htransfers] at hnext
          exact congrArg some hnext
      | some message => exact Or.inr (brokenOff_of_discard (Or.inr ⟨_, hwritten⟩) hrest)

theorem stream_edited (url : String) (timeout : Float) (file : Path) (w : World) :
    ((nextTransfer url timeout w).2).Edited (fun _ _ => True) (stream url timeout file w).2 := by
  unfold stream
  rw [bind_of_ok (World.nextTransfer_apply url timeout w), World.nextTransfer_apply]
  have hdiscard : ∀ message, Edits (fun _ _ => True)
      (do discard file; throw (downloadFailure url message) : Act Unit) := fun _ =>
    (edits_discard fun _ _ _ => trivial).bind fun _ => edits_throw _
  cases w.transfers.headD (.refused w.laterTransfers) with
  | refused message | rejected message => exact hdiscard message _
  | body chunks fault =>
    refine (edits_write fun _ _ _ => trivial).bind (fun _ => ?_) _
    cases fault with
    | none => exact edits_pure ()
    | some message => exact hdiscard message

end Stream

section Trees

variable {t u v : FileTree} {directory file : Path} {place : Place}

/-- A directory that leads to another one is made. -/
def Made (directory : Path) (t u : FileTree) : Prop :=
  ∃ p : Path, p.LeadsTo directory ∧ t.makeDirectory p = .ok u

theorem home_made (h : Relation.ReflTransGen (Made directory) t u) : u.home = t.home := by
  induction h with
  | refl => rfl
  | tail _ hstep ih =>
    obtain ⟨_, _, hmake⟩ := hstep
    exact (FileTree.sameHome_makeDirectory hmake).trans ih

theorem fileAt_made (h : Relation.ReflTransGen (Made directory) t u) (place : Place) :
    u.fileAt place = t.fileAt place := by
  induction h with
  | refl => rfl
  | tail _ hstep ih =>
    obtain ⟨_, _, hmake⟩ := hstep
    obtain ⟨q, _, hat, rfl⟩ := FileTree.makeDirectory_eq_ok hmake
    rw [FileTree.fileAt_set_directory hat, ih]

theorem at?_made (h : Relation.ReflTransGen (Made directory) t u)
    (hplace : ∀ p : Path, p.LeadsTo directory → p.placeFrom t.home ≠ place) : u.at? place = t.at? place := by
  induction h with
  | refl => rfl
  | tail hbefore hstep ih =>
    obtain ⟨p, hleads, hmake⟩ := hstep
    obtain ⟨q, hlocate, _, rfl⟩ := FileTree.makeDirectory_eq_ok hmake
    have hq := FileTree.placeFrom_of_locate hlocate
    rw [home_made hbefore] at hq
    rw [FileTree.at?_set_of_ne (hq ▸ hplace p hleads).symm, ih]

theorem at?_begun (h : Begun file t u) (hplace : place ≠ file.placeFrom t.home) :
    u.at? place = t.at? place := by
  rcases h with rfl | ⟨bytes, hwrite⟩
  · rfl
  · obtain ⟨q, hlocate, _, rfl⟩ := FileTree.write_eq_ok hwrite
    rw [FileTree.placeFrom_of_locate hlocate] at hplace
    exact FileTree.at?_set_of_ne hplace _

theorem home_begun (h : Begun file t u) : u.home = t.home := by
  rcases h with rfl | ⟨bytes, hwrite⟩
  · rfl
  · exact FileTree.sameHome_write hwrite

/-- A stream begins with a file, so the directories stay. -/
theorem locate_begun {p : Path} {q : Place} (h : Begun file t u) (hlocate : t.locate p = .ok q)
    (hat : t.at? q = some .directory) : u.locate p = .ok q ∧ u.at? q = some .directory := by
  rcases h with rfl | ⟨bytes, hwrite⟩
  · exact ⟨hlocate, hat⟩
  · obtain ⟨q', _, hnodir, rfl⟩ := FileTree.write_eq_ok hwrite
    have hkept : ∀ q, t.at? q = some .directory → (t.set q' (.file bytes)).at? q = some .directory := by
      intro q hq
      have hne : q ≠ q' := by
        rintro rfl
        exact hnodir hq
      rw [FileTree.at?_set_of_ne hne, hq]
    exact ⟨FileTree.locate_mono hlocate (FileTree.set_home _ _ _) hkept, hkept q hat⟩

theorem at?_discarded (h : Discarded file t u) (hplace : ¬ file.placeFrom t.home <+: place) :
    u.at? place = t.at? place := by
  rcases h with hunlink | ⟨_, rfl⟩
  · obtain ⟨q, _, hlocate, _, rfl⟩ := FileTree.unlink_eq_ok hunlink
    rw [FileTree.placeFrom_of_locate hlocate] at hplace
    by_cases hroot : place = []
    · rw [hroot, FileTree.at?_nil, FileTree.at?_nil]
    · rw [FileTree.at?_remove hroot, if_neg (by simpa using hplace)]
  · rfl

/-- In a directory that is there a file that was taken away is not. -/
theorem at?_discarded_self {q : Place} {n : String} (hlocate : t.locate directory = .ok q)
    (hat : t.at? q = some .directory)
    (h : Discarded ⟨directory.slashes, directory.parts ++ [n]⟩ t u) :
    u.at? ((⟨directory.slashes, directory.parts ++ [n]⟩ : Path).placeFrom t.home) = none := by
  rcases h with hunlink | ⟨hnone, rfl⟩
  · obtain ⟨q', bytes, hlocate', hfile, rfl⟩ := FileTree.unlink_eq_ok hunlink
    rw [FileTree.placeFrom_of_locate hlocate']
    have hroot : q' ≠ [] := FileTree.ne_nil_of_at? (t := t) (by simp [hfile])
    rw [FileTree.at?_remove hroot, if_pos (by simp)]
  · unfold FileTree.unlink at hnone
    rcases FileTree.locate_concat hlocate hat n with hok | hlong
    · rw [FileTree.placeFrom_of_locate hok]
      cases hnode : u.at? (FileTree.below q n) with
      | none => rfl
      | some node => cases node <;> simp [hok, hnode, bind, Except.bind] at hnone
    · simp [hlong, bind, Except.bind] at hnone

end Trees
section Download

variable {w w' : World} {url name : String} {directory : Path} {force : Bool} {timeout : Float}
  {r : Except Failure Path}

/-- How a stream that came to its end is given the name of the archive. -/
def Completed (part archive : Path) (w : World) (r : Except Failure Path) (w' : World) : Prop :=
  w'.requests = w.requests ∧
    ((∃ f, r = .error f ∧ (∀ g, f ≠ .tool g) ∧
      (w'.files = w.files ∨ w.files.rename part archive = .ok w'.files)) ∨
    r = .ok archive ∧ w.files.rename part archive = .ok w'.files ∧
      archive.hasNul = false ∧ ∃ bytes, w'.files.read archive = .ok bytes)

/-- How a download ends that is streamed. -/
def Streamed (url : String) (timeout : Float) (archive : Path) (w : World) (r : Except Failure Path)
    (w' : World) : Prop :=
  (∃ f, stream url timeout (partPath archive) w = (.error f, w') ∧ r = .error f) ∨
    ∃ u, stream url timeout (partPath archive) w = (.ok (), u) ∧ Completed (partPath archive) archive u r w'

theorem completed {part archive : Path}
    (h : (do
      rename part archive
      let bytes ← read archive
      log .info .fetch ("downloaded " ++ archive.toText ++ " (" ++ toString bytes.length ++ " bytes)")
      return archive : Act Path) w = (r, w')) : Completed part archive w r w' := by
  have hread : Fails (fun f => ∀ g, f ≠ .tool g) (read archive) :=
    fails_lookAt nofun (fun _ => nofun) archive _
  rcases bind_cases h with ⟨f, hrename, rfl⟩ | ⟨_, v, hrename, hrest⟩
  · have hworld := change_eq_error hrename
    exact ⟨hworld ▸ rfl, Or.inl ⟨f, rfl, (plain_change part _ _).of_eq hrename, Or.inl (hworld ▸ rfl)⟩⟩
  · have hrequests : v.requests = w.requests := by
      have hedited := edits_rename (p := part) (q := archive) (E := fun _ _ => True) (fun _ _ _ => trivial) w
      rw [hrename] at hedited
      exact hedited.requests
    obtain ⟨_, hrenamed⟩ := change_eq_ok hrename
    rcases bind_cases hrest with ⟨f, hfailed, rfl⟩ | ⟨bytes, u, hbytes, hlog⟩
    · obtain rfl : v = w' := (lookAt_world archive _ v).symm.trans (congrArg Prod.snd hfailed)
      exact ⟨hrequests, Or.inl ⟨f, rfl, hread.of_eq hfailed, Or.inr hrenamed⟩⟩
    · obtain ⟨rfl, hnul, hread⟩ := lookAt_eq_ok hbytes
      cases hlog
      exact ⟨hrequests, Or.inr ⟨rfl, hrenamed, hnul, bytes, hread⟩⟩

/-- What a download comes to: the archive is reused, or its directory cannot be made, or a stream is begun. -/
theorem download_cases (hname : Url.archiveName url = .ok name)
    (h : download url directory force timeout w = (r, w')) :
    let archive := directory.child name
    (r = .ok archive ∧ force = false ∧ (isFile archive w).1 = .ok true ∧ ∃ log, w' = { w with log := log }) ∨
    (∃ f, r = .error f ∧ (∀ g, f ≠ .tool g) ∧ w.Edited (Made directory) w') ∨
    ((force = true ∨ (isFile archive w).1 = .ok false) ∧ ∃ v, w.Edited (Made directory) v ∧
      (∃ q, v.files.locate directory = .ok q ∧ v.files.at? q = some .directory) ∧
      Streamed url timeout archive v r w') := by
  intro archive
  unfold download at h
  rw [hname] at h
  have hworld : (isFile archive w).2 = w := by rw [isFile_apply]
  rcases bind_cases h with ⟨f, hfile, rfl⟩ | ⟨there, v, hfile, hrest⟩
  · obtain rfl : w = w' := hworld.symm.trans (congrArg Prod.snd hfile)
    refine Or.inr (Or.inl ⟨f, rfl, ?_, .refl _ _⟩)
    exact (fails_isFile (P := fun f => ∀ g, f ≠ .tool g) (fun _ => nofun) _).of_eq hfile
  · obtain rfl : w = v := hworld.symm.trans (congrArg Prod.snd hfile)
    have hthere : (isFile archive w).1 = .ok there := congrArg Prod.fst hfile
    by_cases hreused : (there && !force) = true
    · rw [if_pos hreused] at hrest
      obtain ⟨rfl, hforce⟩ : there = true ∧ force = false := by simpa using hreused
      cases hrest
      exact Or.inl ⟨rfl, hforce, hthere, _, rfl⟩
    · rw [if_neg hreused] at hrest
      have hasked : force = true ∨ (isFile archive w).1 = .ok false := by
        cases there with
        | false => exact Or.inr hthere
        | true => exact Or.inl (by simpa using hreused)
      have hmade := edits_ensure (E := Made directory) (p := directory)
        (fun p hp t u hmake => ⟨p, hp, hmake⟩) w
      rcases bind_cases hrest with ⟨f, hensure, rfl⟩ | ⟨_, v, hensure, hlog⟩
      · rw [hensure] at hmade
        refine Or.inr (Or.inl ⟨f, rfl, ?_, hmade⟩)
        exact (fails_ensure (P := fun f => ∀ g, f ≠ .tool g) nofun (fun _ => nofun) _).of_eq hensure
      · rw [hensure] at hmade
        obtain ⟨_, hdirectory⟩ := ensure_eq_ok hensure
        have hlogged := edits_log (E := Made directory) .info .fetch ("downloading " ++ url) v
        rw [bind_of_ok (log_apply v .info .fetch ("downloading " ++ url))] at hlog
        refine Or.inr (Or.inr ⟨hasked, _, hmade.trans hlogged, hdirectory, ?_⟩)
        rcases bind_cases hlog with ⟨f, hstream, rfl⟩ | ⟨_, u, hstream, hcompleted⟩
        · exact Or.inl ⟨f, hstream, rfl⟩
        · exact Or.inr ⟨u, hstream, completed hcompleted⟩

theorem at?_of_stream_error {file : Path} {place : Place} {f : Failure}
    (h : stream url timeout file w = (.error f, w')) (hplace : ¬ file.placeFrom w.files.home <+: place) :
    w'.files.at? place = w.files.at? place := by
  have hne : place ≠ file.placeFrom w.files.home := by
    rintro rfl
    exact hplace (List.prefix_refl _)
  rcases stream_cases h with ⟨_, _, hok, _⟩ | ⟨_, _, _, hbegun⟩ | ⟨_, t, _, hbegun, hdiscarded⟩
  · cases hok
  · exact at?_begun hbegun hne
  · rw [at?_discarded hdiscarded (home_begun hbegun ▸ hplace), at?_begun hbegun hne]

theorem at?_renamed {part archive : Path} {t u v : FileTree} {bytes : Bytes}
    (hwrite : t.write part bytes = .ok u) (hrename : u.rename part archive = .ok v)
    (hne : part.placeFrom t.home ≠ archive.placeFrom t.home) :
    v.at? (archive.placeFrom t.home) = some (.file bytes) ∧ v.at? (part.placeFrom t.home) = none := by
  obtain ⟨q, hq, hnodir, rfl⟩ := FileTree.write_eq_ok hwrite
  obtain ⟨q₁, q₂, bytes', hq₁, hq₂, hfile, hnodir₂, rfl⟩ := FileTree.rename_eq_ok hrename
  have hsame := FileTree.placeFrom_of_locate hq₁
  have htarget := FileTree.placeFrom_of_locate hq₂
  rw [FileTree.set_home] at hsame htarget
  rw [hsame, htarget] at hne ⊢
  have hroot : q ≠ [] := FileTree.ne_nil_of_at? hnodir
  obtain rfl : q = q₁ := (FileTree.placeFrom_of_locate hq).symm.trans hsame
  rw [FileTree.at?_set_self hroot] at hfile
  obtain rfl : bytes = bytes' := by simpa using hfile
  refine ⟨FileTree.at?_set_self (FileTree.ne_nil_of_at? hnodir₂) _, ?_⟩
  rw [FileTree.at?_set_of_ne hne, FileTree.at?_remove hroot, if_pos (by simp)]

/-- Whatever a download comes to, its file is the one that was there or all of a stream. -/
theorem fileAt_download (hname : Url.archiveName url = .ok name)
    (h : download url directory force timeout w = (r, w')) :
    let place := (directory.child name).placeFrom w.files.home
    w'.files.fileAt place = w.files.fileAt place ∨ ∃ chunks,
      w.transfers.head? = some (.body chunks none) ∧ w'.files.fileAt place = some chunks.flatten := by
  intro place
  have hsingle := Url.name_of_archiveName hname
  rcases download_cases hname h with ⟨_, _, _, _, rfl⟩ | ⟨_, _, _, hmade⟩ | ⟨_, v, hmade, _, hstream⟩
  · exact Or.inl rfl
  · exact Or.inl (fileAt_made hmade.files place)
  · have hbefore := fileAt_made hmade.files place
    have hhome := home_made hmade.files
    have habove := partPath_not_above hsingle directory v.files.home
    have hplace : place = (directory.child name).placeFrom v.files.home := hhome ▸ rfl
    rw [← hplace] at habove
    rcases hstream with ⟨f, hbroken, _⟩ | ⟨u, hdone, _, hcompleted⟩
    · left
      rw [FileTree.fileAt_congr (at?_of_stream_error hbroken habove), hbefore]
    · rcases stream_cases hdone with ⟨chunks, hnext, _, hwrite⟩ | ⟨_, hfail, _⟩ | ⟨_, _, hfail, _⟩
      · have hne : (partPath (directory.child name)).placeFrom v.files.home ≠ place := by
          intro heq
          exact habove (heq ▸ List.prefix_refl _)
        have hrenamed : u.files.rename (partPath (directory.child name)) (directory.child name) = .ok w'.files →
            w'.files.fileAt place = some chunks.flatten := by
          intro hrename
          have hfile := (at?_renamed hwrite hrename (hplace ▸ hne)).1
          rw [← hplace] at hfile
          unfold FileTree.fileAt
          rw [hfile]
        rw [hmade.transfers] at hnext
        rcases hcompleted with ⟨_, _, _, hsame | hrename⟩ | ⟨_, hrename, _⟩
        · left
          rw [hsame, FileTree.fileAt_congr (at?_begun (Or.inr ⟨_, hwrite⟩) hne.symm), hbefore]
        · exact Or.inr ⟨chunks, hnext, hrenamed hrename⟩
        · exact Or.inr ⟨chunks, hnext, hrenamed hrename⟩
      · cases hfail
      · cases hfail

/-- A download that fails as one leaves the archive, and nothing of what was streamed. -/
theorem download_failed {f : ToolFailure} (hname : Url.archiveName url = .ok name)
    (h : download url directory force timeout w = (.error (.tool f), w')) :
    let place := (directory.child name).placeFrom w.files.home
    w'.files.fileAt place = w.files.fileAt place ∧
      ((∀ p : Path, p.LeadsTo directory → p.placeFrom w.files.home ≠ place) →
        w'.files.at? place = w.files.at? place) ∧
      w'.files.at? ((partPath (directory.child name)).placeFrom w.files.home) = none := by
  intro place
  have hsingle := Url.name_of_archiveName hname
  rcases download_cases hname h with ⟨hok, _⟩ | ⟨g, heq, hplain, _⟩ | ⟨_, v, hmade, ⟨q, hlocate, hat⟩, hstream⟩
  · cases hok
  · cases heq
    exact absurd rfl (hplain f)
  · have hhome := home_made hmade.files
    have habove := partPath_not_above hsingle directory v.files.home
    have hplace : place = (directory.child name).placeFrom v.files.home := hhome ▸ rfl
    rw [← hplace] at habove
    rcases hstream with ⟨g, hbroken, heq⟩ | ⟨u, hdone, _, ⟨g, heq, hplain, _⟩ | ⟨hok, _⟩⟩
    · cases heq
      have hkept := at?_of_stream_error hbroken habove
      refine ⟨?_, fun hleads => ?_, ?_⟩
      · rw [FileTree.fileAt_congr hkept, fileAt_made hmade.files]
      · rw [hkept, at?_made hmade.files hleads]
      · rcases stream_cases hbroken with ⟨_, _, hok, _⟩ | ⟨_, heq, hplain, _⟩ | ⟨_, t, _, hbegun, hdiscarded⟩
        · cases hok
        · cases heq
          exact absurd rfl (hplain f)
        · obtain ⟨hlocate', hat'⟩ := locate_begun hbegun hlocate hat
          rw [partPath_child hsingle] at hdiscarded ⊢
          have hgone := at?_discarded_self hlocate' hat' hdiscarded
          rwa [home_begun hbegun, hhome] at hgone
    · cases heq
      exact absurd rfl (hplain f)
    · cases hok

/-- A download that succeeds found the archive, or came to the end of a stream. -/
theorem download_succeeded {p : Path} (hname : Url.archiveName url = .ok name)
    (h : download url directory force timeout w = (.ok p, w')) :
    let archive := directory.child name
    p = archive ∧
      (force = false ∧ (isFile archive w).1 = .ok true ∧ w'.requests = w.requests ∧ w'.files = w.files ∨
        (force = true ∨ (isFile archive w).1 = .ok false) ∧ w'.requests = w.requests ++ [⟨url, timeout⟩] ∧
          (∃ chunks, w.transfers.head? = some (.body chunks none) ∧
            w'.files.read archive = .ok chunks.flatten) ∧
          w'.files.at? ((partPath archive).placeFrom w.files.home) = none) := by
  intro archive
  have hsingle := Url.name_of_archiveName hname
  rcases download_cases hname h with ⟨heq, hforce, hfile, _, rfl⟩ | ⟨g, heq, _⟩ | ⟨hasked, v, hmade, _, hstream⟩
  · cases heq
    exact ⟨rfl, Or.inl ⟨hforce, hfile, rfl, rfl⟩⟩
  · cases heq
  · rcases hstream with ⟨g, _, heq⟩ | ⟨u, hdone, hrequests, ⟨g, heq, _⟩ | ⟨heq, hrename, _, bytes, hread⟩⟩
    · cases heq
    · cases heq
    · cases heq
      rcases stream_cases hdone with ⟨chunks, hnext, _, hwrite⟩ | ⟨_, hfail, _⟩ | ⟨_, _, hfail, _⟩
      · have hhome := home_made hmade.files
        have habove := partPath_not_above hsingle directory v.files.home
        have hne : (partPath archive).placeFrom v.files.home ≠ archive.placeFrom v.files.home := by
          intro heq
          exact habove (heq ▸ List.prefix_refl _)
        obtain ⟨hfile, hgone⟩ := at?_renamed hwrite hrename hne
        refine ⟨rfl, Or.inr ⟨hasked, ?_, ⟨chunks, hmade.transfers ▸ hnext, ?_⟩, hhome ▸ hgone⟩⟩
        · have hstreamed := (stream_edited url timeout (partPath archive) v).requests
          rw [hdone, World.nextTransfer_apply] at hstreamed
          rw [hrequests, hstreamed, hmade.requests]
        · have hsame : w'.files.home = v.files.home :=
            (FileTree.sameHome_rename hrename).trans (FileTree.sameHome_write hwrite)
          -- what was read for the log is what was streamed
          obtain ⟨q, hlocate, hat⟩ := FileTree.read_eq_ok hread
          have hq : archive.placeFrom v.files.home = q := by
            rw [← hsame]
            exact FileTree.placeFrom_of_locate hlocate
          rw [hq, hat] at hfile
          cases hfile
          exact hread
      · cases hfail
      · cases hfail

/-- The archive is there after a download that succeeds. -/
theorem isFile_of_download {p : Path} (hname : Url.archiveName url = .ok name)
    (h : download url directory force timeout w = (.ok p, w')) :
    p = directory.child name ∧ (isFile (directory.child name) w').1 = .ok true := by
  refine ⟨(download_succeeded hname h).1, ?_⟩
  rcases download_cases hname h with ⟨_, _, hfile, log, rfl⟩ | ⟨_, heq, _⟩ | ⟨_, v, _, _, hstream⟩
  · have hthere := isFile_iff.mp hfile
    exact isFile_iff.mpr hthere
  · cases heq
  · rcases hstream with ⟨_, _, heq⟩ | ⟨u, _, _, ⟨_, heq, _⟩ | ⟨_, _, hnul, bytes, hread⟩⟩
    · cases heq
    · cases heq
    · obtain ⟨q, hlocate, hat⟩ := FileTree.read_eq_ok hread
      exact isFile_iff.mpr ⟨hnul, q, bytes, hlocate, hat⟩

theorem download_frame (url : String) (directory : Path) (force : Bool) (timeout : Float) (w : World) :
    (download url directory force timeout w).2.files.home = w.files.home ∧
      (download url directory force timeout w).2.transfers <:+ w.transfers := by
  have honce : EditsOnce FileTree.SameHome (fun w => (nextTransfer url timeout w).2)
      (download url directory force timeout) :=
    edits_download (fun _ _ _ => FileTree.sameHome_makeDirectory) fun _ _ =>
      ⟨fun _ _ _ => FileTree.sameHome_write, fun _ _ => FileTree.sameHome_unlink,
        fun _ _ => FileTree.sameHome_rename⟩
  rcases honce w with hnone | ⟨v, hbefore, hafter⟩
  · exact ⟨hnone.home_eq, hnone.transfers ▸ List.suffix_refl _⟩
  · simp only [World.nextTransfer_apply] at hafter
    refine ⟨hafter.home_eq.trans hbefore.home_eq, ?_⟩
    rw [hafter.transfers, ← hbefore.transfers]
    exact List.tail_suffix _

/-- However often a download is tried, its file is the one that was there or all of a stream. -/
theorem fileAt_downloads (hname : Url.archiveName url = .ok name) (forces : List Bool) (w : World) :
    let place := (directory.child name).placeFrom w.files.home
    let last := forces.foldl (fun v force => (download url directory force timeout v).2) w
    last.files.fileAt place = w.files.fileAt place ∨
      ∃ chunks, .body chunks none ∈ w.transfers ∧ last.files.fileAt place = some chunks.flatten := by
  induction forces generalizing w with
  | nil => exact Or.inl rfl
  | cons force forces ih =>
    intro place last
    obtain ⟨hhome, hleft⟩ := download_frame url directory force timeout w
    have hfirst := fileAt_download hname (Prod.ext rfl rfl : download url directory force timeout w = _)
    have hrest := ih (download url directory force timeout w).2
    rw [hhome] at hrest
    rcases hrest with hsame | ⟨chunks, hmem, hfile⟩
    · rcases hfirst with hfirst | ⟨chunks, hnext, hfile⟩
      · exact Or.inl (hsame.trans hfirst)
      · exact Or.inr ⟨chunks, List.mem_of_mem_head? hnext, hsame.trans hfile⟩
    · exact Or.inr ⟨chunks, hleft.subset hmem, hfile⟩

/-- A download that fails leaves the archive as it was and nothing that was streamed; one that succeeds found the archive
or has all of a stream. So no number of tries leaves a part of a stream under the name of the archive. -/
theorem download_all_or_nothing (hname : Url.archiveName url = .ok name) (directory : Path) (force : Bool)
    (timeout : Float) (w : World) :
    let archive := directory.child name
    let place := archive.placeFrom w.files.home
    let part := (partPath archive).placeFrom w.files.home
    let (result, w') := download url directory force timeout w
    (∀ f, result = .error (.tool f) → w'.files.fileAt place = w.files.fileAt place ∧
      ((∀ p : Path, p.LeadsTo directory → p.placeFrom w.files.home ≠ place) →
        w'.files.at? place = w.files.at? place) ∧
      w'.files.at? part = none) ∧
    (∀ p, result = .ok p → p = archive ∧
      (force = false ∧ (isFile archive w).1 = .ok true ∧ w'.requests = w.requests ∧ w'.files = w.files ∨
        (force = true ∨ (isFile archive w).1 = .ok false) ∧ w'.requests = w.requests ++ [⟨url, timeout⟩] ∧
          (∃ chunks, w.transfers.head? = some (.body chunks none) ∧
            w'.files.read archive = .ok chunks.flatten) ∧
          w'.files.at? part = none)) ∧
    ∀ forces : List Bool,
      let last := forces.foldl (fun v force => (download url directory force timeout v).2) w
      last.files.fileAt place = w.files.fileAt place ∨
        ∃ chunks, .body chunks none ∈ w.transfers ∧ last.files.fileAt place = some chunks.flatten := by
  refine ⟨?_, ?_, fun forces => fileAt_downloads hname forces w⟩
  · rintro f hf
    exact download_failed hname (Prod.ext hf rfl)
  · rintro p hp
    exact download_succeeded hname (Prod.ext hp rfl)

/-- A host with an archive, on which the next download breaks off after two chunks. -/
def interruptedHost : World where
  files := ⟨[(["d"], .directory), (["d", "e.zip"], .file [1, 2, 3])], []⟩
  transfers := [.body [[4, 5], [6]] (some "connection reset")]
  clock := ⟨2024, 1, 2, 3, 4, 5, 0, none⟩

theorem download_all_or_nothing_interrupted : Url.archiveName "http://h/e.zip" = .ok "e.zip" ∧
    let (result, w') := download "http://h/e.zip" ⟨0, ["d"]⟩ true 120 interruptedHost
    result = .error (downloadFailure "http://h/e.zip" "connection reset") ∧
      w'.files.fileAt ["d", "e.zip"] = some [1, 2, 3] ∧ w'.files.at? ["d", "e.zip.part"] = none := by
  have hname : Url.archiveName "http://h/e.zip" = .ok "e.zip" := by cbv
  have hall := download_all_or_nothing hname ⟨0, ["d"]⟩ true 120 interruptedHost
  have harchive : ((⟨0, ["d"]⟩ : Path).child "e.zip").placeFrom interruptedHost.files.home = ["d", "e.zip"] := by
    decide +kernel
  have hpart : (partPath ((⟨0, ["d"]⟩ : Path).child "e.zip")).placeFrom interruptedHost.files.home =
      ["d", "e.zip.part"] := by
    decide +kernel
  have hbefore : interruptedHost.files.fileAt ["d", "e.zip"] = some [1, 2, 3] := by decide +kernel
  have hresult : (download "http://h/e.zip" ⟨0, ["d"]⟩ true 120 interruptedHost).1 =
      .error (downloadFailure "http://h/e.zip" "connection reset") := by cbv
  simp only [harchive, hpart, hbefore] at hall
  generalize download "http://h/e.zip" ⟨0, ["d"]⟩ true 120 interruptedHost = ended at hall hresult ⊢
  obtain ⟨hfile, -, hgone⟩ := hall.1 _ hresult
  exact ⟨hname, hresult, hfile, hgone⟩

end Download
end Act
end AmbientDecls
