import AmbientDecls.Proofs.Build.Footprint

/-! Steps of a build and the file at one place. Tools and entries of archives that are written elsewhere leave it, a directory
that is made and taken out again does not hold it, and once it was written it has its new content. -/

namespace AmbientDecls

namespace World

variable {w : World} {place : Place}

/-- The next transfer is the first one that is left, and it is asked for once. -/
theorem nextTransfer_apply (url : String) (timeout : Float) (w : World) :
    Act.nextTransfer url timeout w = (.ok (w.transfers.headD (.refused w.laterTransfers)),
      { w with requests := w.requests ++ [⟨url, timeout⟩], transfers := w.transfers.tail }) := by
  unfold Act.nextTransfer
  cases htransfers : w.transfers <;> rfl

theorem nextTransfer_frame (url : String) (timeout : Float) (w : World) :
    let w' := (Act.nextTransfer url timeout w).2
    w'.files = w.files ∧ w'.tools = w.tools ∧ w'.calls = w.calls ∧
      w'.requests = w.requests ++ [⟨url, timeout⟩] := by
  rw [nextTransfer_apply]
  exact ⟨rfl, rfl, rfl, rfl⟩

theorem start_frame (args : List String) (timeout : Int) (w : World) :
    let w' := (w.start args timeout).2
    w'.files.home = w.files.home ∧ w'.tools <:+ w.tools ∧ w'.calls = w.calls ++ [⟨args, timeout⟩] ∧
      w'.requests = w.requests ∧ w'.clock = w.clock := by
  refine ⟨start_home args timeout, ?_⟩
  unfold start
  cases w.tools with
  | nil => exact ⟨List.suffix_refl _, rfl, rfl, rfl⟩
  | cons run rest => exact ⟨List.suffix_cons run rest, rfl, rfl, rfl⟩

theorem Edited.keeps {home : Place} {v : World} (h : v.Edited (FileTree.Keeps home place) w) :
    FileTree.Keeps home place v.files w.files := by
  have hsteps := h.files
  generalize w.files = u at hsteps ⊢
  induction hsteps with
  | refl => exact .refl home place _
  | tail _ hstep ih => exact ih.trans hstep

theorem Edited.home_eq {v : World} (h : v.Edited FileTree.SameHome w) : w.files.home = v.files.home := by
  have hsteps := h.files
  generalize w.files = u at hsteps ⊢
  induction hsteps with
  | refl => rfl
  | tail _ hstep ih => exact Eq.trans hstep ih

/-- A tool that does not write to a place leaves the file there. -/
theorem fileAt_start (h : ∀ run ∈ w.tools.head?, ∀ e ∈ run.writes, w.files.home ++ e.1.parts ≠ place)
    (args : List String) (timeout : Int) :
    (w.start args timeout).2.files.fileAt place = w.files.fileAt place := by
  have hwrites : ∀ (writes : List (Path × Node)) (t : FileTree),
      (∀ e ∈ writes, t.home ++ e.1.parts ≠ place) →
      (writes.foldl (fun t e => t.put (t.home ++ e.1.parts) e.2) t).fileAt place =
        t.fileAt place := by
    intro writes
    induction writes with
    | nil => exact fun _ _ => rfl
    | cons e writes ih =>
      intro t hoff
      rw [List.foldl_cons, ih, FileTree.fileAt_put (hoff e (List.mem_cons_self ..))]
      intro e' he'
      rw [FileTree.put_home]
      exact hoff e' (List.mem_cons_of_mem _ he')
  unfold start
  cases htools : w.tools with
  | nil => rfl
  | cons run rest => exact hwrites run.writes w.files (h run (by rw [htools]; rfl))

end World

namespace Act

variable {α : Type} {E : FileTree → FileTree → Prop} {act : Act α} {effect : World → World}
  {w : World} {place : Place}

theorem EditsOnce.keeps {home : Place} (h : EditsOnce (FileTree.Keeps home place) effect act)
    (hfiles : ∀ v, (effect v).files = v.files) (w : World) :
    FileTree.Keeps home place w.files (act w).2.files := by
  rcases h w with hnone | ⟨v, hbefore, hafter⟩
  · exact hnone.keeps
  · exact hbefore.keeps.trans (hfiles v ▸ hafter.keeps)

/-- An act that only starts a tool leaves a file that the tool does not write. -/
theorem EditsOnce.fileAt_start {args : List String} {timeout : Int}
    (h : EditsOnce (fun _ _ => False) (fun w => (w.start args timeout).2) act)
    (hoff : ∀ run ∈ w.tools.head?, ∀ e ∈ run.writes, w.files.home ++ e.1.parts ≠ place) :
    (act w).2.files.fileAt place = w.files.fileAt place := by
  rcases h w with hnone | ⟨v, hbefore, hafter⟩
  · rw [hnone.files_eq]
  · rw [hafter.files_eq, World.fileAt_start (by rwa [hbefore.tools, hbefore.files_eq]),
      hbefore.files_eq]

theorem fileAt_write_of_ne {p : Path} (hplace : p.placeFrom w.files.home ≠ place) (bytes : Bytes) :
    (write p bytes w).2.files.fileAt place = w.files.fileAt place := by
  unfold write change
  rw [bind_apply]
  cases husable : usable p w with
  | mk result v =>
    have hfiles : v.files = w.files := files_of_still (edits_usable p) husable
    cases result with
    | error f => exact congrArg (fun files => FileTree.fileAt files place) hfiles
    | ok u =>
      simp only
      rw [bind_apply, get_apply]
      simp only [hfiles]
      cases hwrite : w.files.write p bytes with
      | error c => exact congrArg (fun files => FileTree.fileAt files place) hfiles
      | ok files =>
        have hfile := FileTree.fileAt_write hwrite place
        rw [if_neg hplace.symm] at hfile
        exact hfile

/-- A directory is made without a change to files, and if it is made there is no file in it. -/
theorem keeps_makeNew {directory : Path} {w₁ : World} {made : Except Failure Unit} (hw : w.files.WellFormed)
    (h : makeNew directory w = (made, w₁)) (place : Place) :
    w₁.tools = w.tools ∧ w₁.files.home = w.files.home ∧ w₁.files.fileAt place = w.files.fileAt place ∧
      (made = .ok () → directory.placeFrom w.files.home <+: place → w₁.files.fileAt place = none) := by
  have hmakes : ∀ p t u, t.makeDirectory p = .ok u → FileTree.Keeps w.files.home place t u :=
    fun _ _ _ => FileTree.keeps_makeDirectory w.files.home place
  have hedited := edits_makeNew (p := directory) (fun q _ => hmakes q) w
  rw [h] at hedited
  obtain ⟨⟨hhome, _⟩, hfile⟩ := hedited.keeps ⟨rfl, hw⟩
  refine ⟨hedited.tools, hhome, hfile, ?_⟩
  rintro rfl hprefix
  obtain ⟨_, v, hv, hdirectory⟩ := makeNew_eq_ok h
  have hkept : FileTree.Keeps w.files.home place w.files v.files := by
    rcases hv with rfl | hensure
    · exact .refl _ _ _
    · have habove := edits_ensure (p := directory.parent) (fun q _ => hmakes q) w
      rw [hensure] at habove
      exact habove.keeps
  obtain ⟨⟨hhome', hwell⟩, _⟩ := hkept ⟨rfl, hw⟩
  exact FileTree.fileAt_below_makeDirectory hwell hdirectory (hhome' ▸ hprefix)

theorem fileAt_concluded {directory : Path} (ran : Except Failure ToolResult × World)
    (h : directory.placeFrom ran.2.files.home <+: place → ran.2.files.fileAt place = none) :
    (concluded directory ran).2.files.fileAt place = ran.2.files.fileAt place := by
  obtain ⟨ended, w⟩ := ran
  cases ended with
  | error f => rfl
  | ok result =>
    unfold concluded
    simp only
    split
    · rfl
    · exact FileTree.fileAt_removeAll h

theorem runTool_files {tool stage : String} {args : List String} {timeout : Int} (hargs : args ≠ []) (w : World) :
    (runTool tool stage args timeout w).2.files = (w.start args timeout).2.files := by
  obtain ⟨word, rest, rfl⟩ := List.exists_cons_of_ne_nil hargs
  exact (runTool_apply tool stage word rest timeout w).2

/-- The directory of a tool that fails is taken away again, and no file with it that was there if none was below. -/
theorem fileAt_ran (tool stage : String) (timeout : Int) {args : List String} {directory : Path} (hargs : args ≠ [])
    (hoff : ∀ run ∈ w.tools.head?, ∀ e ∈ run.writes, w.files.home ++ e.1.parts ≠ place)
    (hbelow : directory.placeFrom w.files.home <+: place → w.files.fileAt place = none) :
    (concluded directory (runTool tool stage args timeout w)).2.files.fileAt place = w.files.fileAt place := by
  have hfile : (runTool tool stage args timeout w).2.files.fileAt place = w.files.fileAt place := by
    rw [runTool_files hargs, World.fileAt_start hoff]
  have hhome : (runTool tool stage args timeout w).2.files.home = w.files.home := by
    rw [runTool_files hargs, World.start_home]
  rw [fileAt_concluded, hfile]
  intro hprefix
  rw [hfile]
  exact hbelow (hhome ▸ hprefix)

/-- An export that is taken back again does not take a file with it that was there before. -/
theorem fileAt_exportDocs {sources : String} {directory : Path} {executable extra : String} {timeout : Int}
    (hw : w.files.WellFormed)
    (hoff : ∀ run ∈ w.tools.head?, ∀ e ∈ run.writes, w.files.home ++ e.1.parts ≠ place) :
    (exportDocs sources directory executable extra timeout w).2.files.fileAt place =
      w.files.fileAt place := by
  cases hthere : (contains directory w).1 with
  | error f =>
    have herror : contains directory w = (.error f, (contains directory w).2) := Prod.ext hthere rfl
    have hstill := files_of_still (edits_contains directory) herror
    unfold exportDocs
    rw [bind_apply, herror]
    exact congrArg (fun files => FileTree.fileAt files place) hstill
  | ok b =>
    cases b with
    | true =>
      unfold exportDocs
      rw [bind_apply, contains_eq_ok hthere]
      rfl
    | false =>
      rw [exportDocs_apply hthere]
      cases hnew : makeNew directory w with
      | mk made w₁ =>
        obtain ⟨htools, hhome, hfile, hbelow⟩ := keeps_makeNew hw hnew place
        cases made with
        | error f => exact hfile
        | ok u =>
          cases ShellWords.ofText extra with
          | error fault => exact hfile
          | ok words =>
            have hargs : exportArgs sources directory executable words ≠ [] := by simp [exportArgs]
            refine (fileAt_ran "jsduck" "export" timeout hargs ?_ fun hprefix => ?_).trans hfile
            · rwa [htools, hhome]
            · exact hbelow rfl (hhome ▸ hprefix)

/-- A tool has a result only if it exits. -/
theorem runTool_eq_ok {tool stage : String} {args : List String} {timeout : Int} {result : ToolResult}
    {w' : World} (hargs : args ≠ []) (h : runTool tool stage args timeout w = (.ok result, w')) :
    ∃ code output errors, (w.start args timeout).1 = .exited code output errors ∧
      result = ⟨code = 0, code, output ++ errors⟩ := by
  obtain ⟨word, rest, rfl⟩ := List.exists_cons_of_ne_nil hargs
  obtain ⟨hresult, _⟩ := runTool_apply tool stage word rest timeout w
  rw [h] at hresult
  cases hfinish : (w.start (word :: rest) timeout).1 with
  | exited code output errors =>
    rw [hfinish] at hresult
    exact ⟨code, output, errors, rfl, Except.ok.inj hresult⟩
  | missing =>
    rw [hfinish] at hresult
    cases hresult
  | denied =>
    rw [hfinish] at hresult
    cases hresult
  | timedOut =>
    rw [hfinish] at hresult
    cases hresult

theorem writeText_eq_ok {p : Path} {s : String} {w' : World}
    (h : writeText p s w = (.ok (), w')) : p.hasNul = false ∧ w.files.write p (Utf8.encode s) = .ok w'.files := by
  let f (t : FileTree) := t.write p (Utf8.encode s)
  have hchange : change p none f w = (.ok (), w') := h
  exact change_eq_ok hchange

theorem fileAt_writeDeclarations {text : String} {file r : Path} {w' : World}
    (h : writeDeclarations text file false w = (.ok r, w')) :
    w'.files.fileAt (file.placeFrom w.files.home) = some (Utf8.encode text) := by
  unfold writeDeclarations at h
  obtain ⟨⟨⟩, v, hensure, hrest⟩ := bind_eq_ok h
  obtain ⟨⟨⟩, u, hwrite, hlog⟩ := bind_eq_ok hrest
  cases hlog
  have hhome : v.files.home = w.files.home := by
    have hedited := edits_ensure (p := file.parent) (fun _ _ _ _ => FileTree.sameHome_makeDirectory) w
    rw [hensure] at hedited
    exact hedited.home_eq
  have hfile := FileTree.fileAt_write (writeText_eq_ok hwrite).2 (file.placeFrom w.files.home)
  rwa [hhome, if_pos rfl] at hfile

theorem fileAt_writeReference {declaration r : Path} {w' : World}
    (h : writeReference declaration w = (.ok r, w')) :
    w'.files.fileAt ((declaration.parent.child referenceName).placeFrom w.files.home) =
      some (Utf8.encode (referenceText declaration.name)) := by
  obtain ⟨⟨⟩, u, hwrite, hpure⟩ := bind_eq_ok h
  obtain ⟨-, rfl⟩ := Prod.mk.inj hpure
  have hfile := FileTree.fileAt_write (writeText_eq_ok hwrite).2
    ((declaration.parent.child referenceName).placeFrom w.files.home)
  rwa [if_pos rfl] at hfile

end Act
end AmbientDecls
