import AmbientDecls.Proofs.Build.Download
import AmbientDecls.Proofs.Build.Formatting
import AmbientDecls.Proofs.Build.Loading
import AmbientDecls.Proofs.Build.Unpacking

/-! What a build that comes to its end leaves behind. Its archive, its folder and its export are there when the declarations
are generated, and what it writes afterwards lies beside them, so they are still there at the end unless a tool took them
away. -/

namespace AmbientDecls

namespace FileTree

variable {t u : FileTree} {p : Path} {q : Place} {bytes : Bytes}

/-- A file that is written makes no directory. -/
theorem at?_write_ne_directory (h : t.write p bytes = .ok u) (hq : t.at? q ≠ some .directory) :
    u.at? q ≠ some .directory := by
  obtain ⟨place, _, hat, rfl⟩ := write_eq_ok h
  by_cases hsame : q = place
  · rw [hsame, at?_set_self (ne_nil_of_at? hat)]
    nofun
  · rwa [at?_set_of_ne hsame]

/-- No name holds a slash. -/
def Named (t : FileTree) : Prop := ∀ e ∈ t.nodes, ∀ n ∈ e.1, '/' ∉ n.toList

theorem Named.list (ht : t.Named) {names : List String} (h : t.list p = .ok names) :
    ∀ n ∈ names, '/' ∉ n.toList := by
  obtain ⟨q, hlocate, hat⟩ := list_eq_ok h
  unfold FileTree.list at h
  simp only [hlocate, hat, bind, Except.bind] at h
  obtain rfl := Except.ok.inj h
  intro n hn
  obtain ⟨e, he, hlast⟩ := List.mem_filterMap.mp (List.mem_mergeSort.mp hn)
  split at hlast
  · exact ht e he n (List.mem_of_getLast? hlast)
  · cases hlast

end FileTree

open FileTree (Grows)

namespace Act

variable {α β : Type} {act : Act α} {w w' : World} {p : Path}

theorem grows_of_edits (h : Edits Grows act) (w : World) : w.files.Grows (act w).2.files := .of_steps (h w).files

theorem isFile_of_grows (h : w.files.Grows w'.files) (hp : (isFile p w).1 = .ok true) : (isFile p w').1 = .ok true := by
  obtain ⟨hnul, hfile⟩ := isFile_iff.mp hp
  exact isFile_iff.mpr ⟨hnul, FileTree.isFile_iff.mp (h.isFile (FileTree.isFile_iff.mpr hfile))⟩

theorem grows_makeNew {made : Except Failure Unit} (h : makeNew p w = (made, w')) : w.files.Grows w'.files := by
  have hgrows := grows_of_edits (edits_makeNew (p := p) fun _ _ _ _ => FileTree.grows_makeDirectory) w
  rwa [h] at hgrows

theorem grows_unpack {archive folder : String} {directory : Path} {r : Except Failure Path}
    (h : unpack archive directory folder w = (r, w')) : w.files.Grows w'.files := by
  have hedited : w.Edited Grows (unpack archive directory folder w).2 :=
    edited_unpack (fun _ _ _ => FileTree.grows_makeDirectory) fun _ _ _ _ _ _ _ _ _ _ => FileTree.grows_write
  rw [h] at hedited
  exact .of_steps hedited.files

/-- A directory that is there is not made again. -/
theorem ensure_of_directory {q : Place} (hnul : p.hasNul = false) (hlocate : w.files.locate p = .ok q)
    (hat : w.files.at? q = some .directory) : ensure p w = (.ok (), w) := by
  have hmake : w.files.makeDirectory p = .error .exists := by
    rw [FileTree.makeDirectory_of_locate hlocate, hat]
  have hthere : isDirectory p w = (.ok true, w) := by
    refine isDirectory_eq ?_
    rw [isDirectory_of_locate hnul hlocate, hat]
    rfl
  have hone : ensureOne p w = (.ok (), w) := by
    unfold ensureOne
    rw [bind_apply, get_apply]
    simp only [hmake]
    rw [bind_of_ok hthere]
    rfl
  unfold ensure
  rw [bind_of_ok (usable_apply hnul w)]
  cases p.parts.length with
  | zero => exact hone
  | succ fuel =>
    unfold ensureDirectory
    rw [bind_apply, get_apply]
    simp only [hmake]
    exact hone

/-- In a directory that is there the declarations are all that is written. -/
theorem writeDeclarations_eq_ok {text : String} {file r : Path} {q : Place}
    (hlocate : w.files.locate file.parent = .ok q) (hat : w.files.at? q = some .directory)
    (h : writeDeclarations text file false w = (.ok r, w')) :
    file.hasNul = false ∧ w.files.write file (Utf8.encode text) = .ok w'.files := by
  unfold writeDeclarations at h
  obtain ⟨_, _, hensure, hrest⟩ := bind_eq_ok h
  obtain ⟨_, _, htext, hlog⟩ := bind_eq_ok hrest
  cases hlog
  rw [ensure_of_directory (ensure_eq_ok hensure).1 hlocate hat] at hensure
  cases hensure
  have hwritten := writeText_eq_ok htext
  exact hwritten

/-- What follows without edits leaves the files as they are. -/
theorem files_bind_of_still {f : α → Act β} (hf : ∀ a, Edits (fun _ _ => False) (f a)) (w : World) :
    ((act >>= f) w).2.files = (act w).2.files := by
  rw [bind_apply]
  cases act w with
  | mk result v =>
    cases result with
    | error e => rfl
    | ok a => exact (hf a v).files_eq

theorem concluded_eq_ok {directory : Path} {ran : Except Failure ToolResult × World} {b : Bool}
    (h : concluded directory ran = (.ok b, w')) : w' = ran.2 := by
  obtain ⟨ended, v⟩ := ran
  cases ended with
  | error f => cases h
  | ok result =>
    unfold concluded at h
    simp only at h
    split at h
    · cases h
      rfl
    · cases h

/-- An export that succeeds finds something in its place, or makes a directory and has the tool write into it. -/
theorem exportDocs_eq_ok {sources executable extra : String} {directory : Path} {timeout : Int} {b : Bool}
    (h : exportDocs sources directory executable extra timeout w = (.ok b, w')) :
    w'.files = w.files ∨ ∃ words v, ShellWords.ofText extra = .ok words ∧ makeNew directory w = (.ok (), v) ∧
      w'.files = (v.start (exportArgs sources directory executable words) timeout).2.files := by
  rcases bind_cases h with ⟨_, _, hfail⟩ | ⟨there, w₁, hthere, _⟩
  · cases hfail
  · cases there with
    | true =>
      have hhas : w.Has directory := congrArg Prod.fst hthere
      obtain ⟨log, hskipped⟩ := exportDocs_of_has _ _ _ _ hhas
      rw [hskipped] at h
      cases h
      exact Or.inl rfl
    | false =>
      rw [exportDocs_apply (congrArg Prod.fst hthere)] at h
      cases hmade : makeNew directory w with
      | mk made v =>
        rw [hmade] at h
        cases made with
        | error f => cases h
        | ok u =>
          cases hwords : ShellWords.ofText extra with
          | error fault =>
            rw [hwords] at h
            cases h
          | ok words =>
            rw [hwords] at h
            refine Or.inr ⟨words, v, rfl, rfl, ?_⟩
            rw [concluded_eq_ok h]
            exact runTool_files (by simp [exportArgs]) v

end Act

namespace BuildTask

open Act

variable (t : BuildTask)

/-- The sources of a version stay: the archive is still a file, and the folder still a directory. -/
structure LeavesSources (u v : FileTree) : Prop where
  archive : ∀ name, Url.archiveName t.version.url = .ok name →
    u.isFile (t.places.directory.child name) = true → v.isFile (t.places.directory.child name) = true
  folder : u.isDirectory (t.places.directory.child t.version.folder) = true →
    v.isDirectory (t.places.directory.child t.version.folder) = true

/-- The export stays: the files that are wanted are still those that were there, with their content. -/
def LeavesExport (u v : FileTree) : Prop := ∀ names content,
  Exported t.places.docs t.config.registry.classPrefix names content u →
    Exported t.places.docs t.config.registry.classPrefix names content v

/-- What a tool has to leave in place in a stage that starts it. The one that exports has only found the sources. -/
def LeavesInPlace (p : Passage Stage Progress) : Prop :=
  match p.stage with
  | .document => ∀ c v, t.call? .document = some c → makeNew t.places.docs p.before = (.ok (), v) →
    t.LeavesSources v.files (v.start c.args c.timeout).2.files
  | .check => ∀ c, t.call? .check = some c →
    let u := (p.before.start c.args c.timeout).2.files
    t.LeavesSources p.before.files u ∧ t.LeavesExport p.before.files u
  | .format => ∀ c, t.call? .format = some c →
    let u := (p.before.start c.args c.timeout).2.files
    t.LeavesSources p.before.files u ∧ t.LeavesExport p.before.files u
  | _ => True

/-- A world in which a build finds everything up to the gate, and comes to given declarations. -/
structure Prepared (g : Generated) (w : World) : Prop where
  archive : t.skipFetch = false → ∃ name, Url.archiveName t.version.url = .ok name ∧
    (isFile (t.places.directory.child name) w).1 = .ok true
  folder : t.skipFetch = false → (isDirectory (t.places.directory.child t.version.folder) w).1 = .ok true
  docs : w.Has t.places.docs
  generated : (generate t.places.docs t.config (some t.version.docUrl) none w).1 = .ok g
  usable : t.places.declaration.hasNul = false
  directory : ∃ q, w.files.locate t.places.directory = .ok q ∧ w.files.at? q = some .directory
  located : w.files.locate t.places.declaration = .ok (t.declared w.files.home)

variable {t} {u v : FileTree} {w w' : World} {g : Generated}

theorem LeavesSources.refl (u : FileTree) : t.LeavesSources u u := ⟨fun _ _ => id, id⟩

theorem LeavesSources.trans {x : FileTree} (huv : t.LeavesSources u v) (hvx : t.LeavesSources v x) : t.LeavesSources u x :=
  ⟨fun name hname h => hvx.archive name hname (huv.archive name hname h), fun h => hvx.folder (huv.folder h)⟩

theorem leavesSources_of_grows (h : u.Grows v) : t.LeavesSources u v := ⟨fun _ _ => h.isFile, h.isDirectory⟩

theorem LeavesSources.isFile {name : String} (h : t.LeavesSources w.files w'.files)
    (hname : Url.archiveName t.version.url = .ok name)
    (hfile : (isFile (t.places.directory.child name) w).1 = .ok true) :
    (isFile (t.places.directory.child name) w').1 = .ok true := by
  obtain ⟨hnul, hthere⟩ := isFile_iff.mp hfile
  have hkept := h.archive name hname (FileTree.isFile_iff.mpr hthere)
  exact isFile_iff.mpr ⟨hnul, FileTree.isFile_iff.mp hkept⟩

theorem LeavesSources.isDirectory (h : t.LeavesSources w.files w'.files)
    (hfolder : (isDirectory (t.places.directory.child t.version.folder) w).1 = .ok true) :
    (isDirectory (t.places.directory.child t.version.folder) w').1 = .ok true := by
  obtain ⟨hnul, hthere⟩ := isDirectory_iff.mp hfolder
  have hkept := h.folder (FileTree.isDirectory_iff.mpr hthere)
  exact isDirectory_iff.mpr ⟨hnul, FileTree.isDirectory_iff.mp hkept⟩

/-- Only the files and the clock count. -/
theorem Prepared.congr (h : t.Prepared g w) (hfiles : w'.files = w.files) (hclock : w'.clock = w.clock) :
    t.Prepared g w' := by
  have hgrows : w.files.Grows w'.files := hfiles ▸ .refl _
  refine ⟨fun hskip => ?_, fun hskip => ?_, (World.has_congr hfiles).mpr h.docs, ?_, h.usable, hfiles ▸ h.directory,
    hfiles ▸ h.located⟩
  · obtain ⟨name, hname, hfile⟩ := h.archive hskip
    exact ⟨name, hname, isFile_of_grows hgrows hfile⟩
  · exact (isDirectory_congr _ hfiles).trans (h.folder hskip)
  · obtain ⟨_, names, content, hexport⟩ := exported_of_generate (Prod.ext h.generated rfl)
    rw [← h.generated]
    exact generate_congr ⟨hfiles ▸ hexport, hexport, hclock⟩

section Beside

variable {names : List String} {content : String → Bytes} {m start : String} {file : Path} {bytes : Bytes}

/-- What is written beside the export under another name does not change it. -/
theorem exported_of_beside (hfolder : '/' ∉ t.version.folder.toList) (hnames : ∀ n ∈ names, '/' ∉ n.toList)
    (hm : m ≠ t.version.folder ++ ".docs") (hfile : file.placeFrom u.home = t.places.directory.placeFrom u.home ++ [m])
    (hwrite : u.write file bytes = .ok v) (h : Exported t.places.docs start names content u) :
    Exported t.places.docs start names content v := by
  have hdocs : t.places.docs.placeFrom u.home =
      t.places.directory.placeFrom u.home ++ [t.version.folder ++ ".docs"] := by
    rw [t.docs_eq hfolder, Path.placeFrom_concat _ (append_ne_of_length_lt (by decide))]
  refine h.write hwrite ?_ fun n hn => ?_
  · rw [hfile, hdocs, List.dropLast_concat]
    intro heq
    simpa using congrArg List.length heq
  · rw [hfile]
    rcases Path.child_cases (hnames n hn) t.places.docs with hsame | hbelow
    · rw [hsame, hdocs]
      simpa using Ne.symm hm
    · have hplace : (t.places.docs.child n).placeFrom u.home = FileTree.below (t.places.docs.placeFrom u.home) n := by
        rw [hbelow]
        unfold Path.placeFrom
        rw [List.foldl_append]
        rfl
      rw [hplace, hdocs, FileTree.below]
      intro heq
      split at heq
      · rw [List.dropLast_concat] at heq
        simpa using congrArg List.length heq
      · simpa using congrArg List.length heq

end Beside

section Stages

variable {given q : Progress} {p : Passage Stage Progress}

/-- Fetching succeeds only if the archive and the folder are there in the end. -/
theorem sources_of_fetching (hskip : t.skipFetch = false) (h : runAll t.act t.fetching {} w = (.ok q, w')) :
    (∃ name, Url.archiveName t.version.url = .ok name ∧ (isFile (t.places.directory.child name) w').1 = .ok true) ∧
      (isDirectory (t.places.directory.child t.version.folder) w').1 = .ok true := by
  have hstages : t.fetching = [.download, .unpack] := by
    unfold fetching
    rw [hskip]
    rfl
  rw [hstages] at h
  obtain ⟨_, _, hdownload, hrest⟩ := runAll_cons_eq_ok h
  rw [runAll_singleton] at hrest
  obtain ⟨archive, _, hfetched, hpure⟩ := bind_eq_ok hdownload
  cases hpure
  obtain ⟨_, _, hunpacked, hpure⟩ := bind_eq_ok hrest
  cases hpure
  refine ⟨?_, unpack_eq_ok hunpacked⟩
  cases hname : Url.archiveName t.version.url with
  | error fault =>
    unfold download at hfetched
    rw [hname] at hfetched
    cases hfetched
  | ok name => exact ⟨name, rfl, isFile_of_grows (grows_unpack hunpacked) (isFile_of_download hname hfetched).2⟩

theorem leavesSources_document (h : t.act .document given w = (.ok q, w'))
    (htool : t.LeavesInPlace ⟨.document, given, w, .ok q, w'⟩) : t.LeavesSources w.files w'.files := by
  obtain ⟨_, _, hexport, hpure⟩ := bind_eq_ok h
  cases hpure
  rcases exportDocs_eq_ok hexport with hsame | ⟨words, v, hwords, hmade, hfiles⟩
  · rw [hsame]
    exact .refl _
  · have hcall : t.call? .document = some ⟨exportArgs t.places.sources.toText t.places.docs t.tools.jsduck words,
        t.tools.timeout⟩ := by
      unfold call?
      rw [hwords]
    rw [hfiles]
    exact (leavesSources_of_grows (grows_makeNew hmade)).trans (htool _ v hcall hmade)

theorem act_declare_write {place : Place} (hlocate : w.files.locate t.places.directory = .ok place)
    (hat : w.files.at? place = some .directory) (h : t.act .declare given w = (.ok q, w')) :
    t.places.declaration.hasNul = false ∧
      w.files.write t.places.declaration (Utf8.encode given.generated.text) = .ok w'.files := by
  obtain ⟨_, v, hlog, hrest⟩ := bind_eq_ok h
  obtain ⟨_, _, hwrite, hpure⟩ := bind_eq_ok hrest
  cases hpure
  have hfiles : v.files = w.files := congrArg (fun r => r.2.files) hlog.symm
  rw [← hfiles] at hlocate hat ⊢
  exact writeDeclarations_eq_ok hlocate hat hwrite

theorem act_reference_write (h : t.act .reference given w = (.ok q, w')) :
    w.files.write t.reference (Utf8.encode (referenceText t.places.declaration.name)) = .ok w'.files := by
  obtain ⟨_, _, hreference, hpure⟩ := bind_eq_ok h
  obtain ⟨-, rfl⟩ := Prod.mk.inj hpure
  obtain ⟨_, _, hwrite, hpure⟩ := bind_eq_ok hreference
  obtain ⟨-, rfl⟩ := Prod.mk.inj hpure
  exact (writeText_eq_ok hwrite).2

theorem files_check (given : Progress) (w : World) :
    (t.act .check given w).2.files = (w.start t.checkArgs t.tools.timeout).2.files := by
  unfold act
  simp only
  rw [files_bind_of_still (fun result => ?_), runTool_files (by simp [checkArgs])]
  obtain ⟨ok, code, output⟩ := result
  cases ok with
  | false => exact (edits_throw _).bind fun _ => edits_pure _
  | true => exact (edits_log _ _ _).bind fun _ => edits_pure _

theorem files_format (given : Progress) (w : World) :
    (t.act .format given w).2.files = (w.start t.formatArgs t.tools.timeout).2.files := by
  unfold act
  simp only
  rw [files_bind_of_still (fun result => ?_), runTool_files (by simp [formatArgs])]
  split
  · exact (edits_log _ _ _).bind fun _ => edits_pure _
  · exact edits_pure _

theorem rank_checking (t : BuildTask) : ∀ s ∈ t.checking, Stage.declare.rank < s.rank := by
  unfold checking
  cases t.skipCheck <;> cases t.tools.formatOutput <;> decide

variable {names : List String} {content : String → Bytes}

/-- After the declarations were written a stage leaves the sources and the export in place if its tool does. -/
theorem leaves_checking (hfolder : '/' ∉ t.version.folder.toList) (hnames : ∀ n ∈ names, '/' ∉ n.toList)
    (hs : Stage.declare.rank < p.stage.rank) (hpassed : t.act p.stage p.given p.before = (p.outcome, p.after))
    (hok : ∃ q, p.outcome = .ok q) (htool : t.LeavesInPlace p)
    (hexport : Exported t.places.docs t.config.registry.classPrefix names content p.before.files) :
    t.LeavesSources p.before.files p.after.files ∧
      Exported t.places.docs t.config.registry.classPrefix names content p.after.files := by
  obtain ⟨q, hq⟩ := hok
  unfold LeavesInPlace at htool
  cases hstage : p.stage with
  | reference =>
    rw [hstage, hq] at hpassed
    have hwrite := act_reference_write hpassed
    refine ⟨leavesSources_of_grows (FileTree.grows_write hwrite), ?_⟩
    have hname : referenceName ≠ t.version.folder ++ ".docs" := by
      change "te" ++ "st.ts" ≠ _
      exact ne_of_endings (by decide) (by decide)
    exact exported_of_beside hfolder hnames hname (t.placeFrom_reference _) hwrite hexport
  | check =>
    rw [hstage] at hpassed htool
    obtain ⟨hsources, hleft⟩ := htool _ rfl
    have hfiles := t.files_check p.given p.before
    rw [hpassed] at hfiles
    rw [hfiles]
    exact ⟨hsources, hleft _ _ hexport⟩
  | format =>
    rw [hstage] at hpassed htool
    obtain ⟨hsources, hleft⟩ := htool _ rfl
    have hfiles := t.files_format p.given p.before
    rw [hpassed] at hfiles
    rw [hfiles]
    exact ⟨hsources, hleft _ _ hexport⟩
  | _ =>
    rw [hstage] at hs
    exact absurd hs (by decide)

end Stages

section Reported

variable {r : BuildReport}

/-- The course of a build that is reported: what the stages came to, one after the other. -/
theorem course_of_report (hr : (t.build w).1 = .ok r) : ∃ q₀ w₀ w₁ q₂ w₂ w₃ q,
    runAll t.act t.fetching {} w = (.ok q₀, w₀) ∧
    (t.act .document q₀ w₀ = (.ok q₀, w₁) ∧ ⟨.document, q₀, w₀, .ok q₀, w₁⟩ ∈ t.passages w) ∧
    (t.act .generate q₀ w₁ = (.ok q₂, w₂) ∧ ⟨.generate, q₀, w₁, .ok q₂, w₂⟩ ∈ t.passages w) ∧
    (t.act .declare q₂ w₂ = (.ok q₂, w₃) ∧ ⟨.declare, q₂, w₂, .ok q₂, w₃⟩ ∈ t.passages w) ∧
    (runAll t.act t.checking q₂ w₃ = (.ok q, (t.build w).2) ∧
      ∀ p ∈ trail t.act t.checking q₂ w₃, p ∈ t.passages w) ∧
    t.report q = r := by
  obtain ⟨q, v, hrun, hq⟩ := runAll_of_report hr
  have hend : (t.build w).2 = v := by rw [build_apply, hrun]
  obtain ⟨q₀, w₀, hfetch, hfetched⟩ := runAll_append_eq_ok hrun
  obtain ⟨q₁, w₁, hdocument, hexported⟩ := runAll_cons_eq_ok hfetched
  obtain ⟨q₂, w₂, hgenerate, hmade⟩ := runAll_cons_eq_ok hexported
  obtain ⟨q₃, w₃, hdeclare, hcheck⟩ := runAll_cons_eq_ok hmade
  obtain rfl : q₁ = q₀ := progress_act hdocument
  obtain rfl : q₃ = q₂ := progress_act hdeclare
  have hdocumented : runAll t.act (t.fetching ++ [.document]) {} w = (.ok q₁, w₁) := by
    rw [runAll_append_of_ok hfetch, runAll_singleton, hdocument]
  have hgenerated : runAll t.act (t.fetching ++ [.document] ++ [.generate]) {} w = (.ok q₃, w₂) := by
    rw [runAll_append_of_ok hdocumented, runAll_singleton, hgenerate]
  have hdeclared : runAll t.act (t.fetching ++ [.document] ++ [.generate] ++ [.declare]) {} w = (.ok q₃, w₃) := by
    rw [runAll_append_of_ok hgenerated, runAll_singleton, hdeclare]
  refine ⟨q₁, w₀, w₁, q₃, w₂, w₃, q, hfetch, ⟨hdocument, ?_⟩, ⟨hgenerate, ?_⟩, ⟨hdeclare, ?_⟩,
    ⟨hend ▸ hcheck, fun p hp => ?_⟩, hq⟩
  · exact mem_trail_iff.mpr ⟨_, _, rfl, hfetch, hdocument⟩
  · exact mem_trail_iff.mpr ⟨_, .declare :: t.checking, by simp [stages], hdocumented, hgenerate⟩
  · exact mem_trail_iff.mpr ⟨_, t.checking, by simp [stages], hgenerated, hdeclare⟩
  · have hlast := trail_append_of_ok hdeclared hp
    rwa [show t.fetching ++ [.document] ++ [.generate] ++ [.declare] ++ t.checking = t.stages by simp [stages]] at hlast

/-- What the stages after the declarations were written preserve holds at the end. -/
theorem inv_of_checking {I : World → Prop} {given q : Progress} {v v' : World}
    (hrun : runAll t.act t.checking given v = (.ok q, v')) (hv : I v)
    (h : ∀ p ∈ trail t.act t.checking given v, Stage.declare.rank < p.stage.rank → (∃ q, p.outcome = .ok q) →
      t.act p.stage p.given p.before = (p.outcome, p.after) → I p.before → I p.after) : I v' := by
  have hend : I (runAll t.act t.checking given v).2 := by
    refine inv_of_trail (fun p hp => ?_) hv
    obtain ⟨_, _, hsplit, _, hpassed⟩ := mem_trail_iff.mp hp
    have hs : p.stage ∈ t.checking := hsplit ▸ List.mem_append_right _ (List.mem_cons_self ..)
    exact h p hp (t.rank_checking _ hs) ((trail_of_ok hrun).2 p hp) hpassed
  rwa [hrun] at hend

/-- Where the export is, the directory of the version is there. -/
theorem directory_of_exported {x : FileTree} {start : String} {names : List String} {content : String → Bytes}
    (hfolder : '/' ∉ t.version.folder.toList) (h : Exported t.places.docs start names content x) :
    ∃ place, x.locate t.places.directory = .ok place ∧ x.at? place = some .directory := by
  obtain ⟨all, hall, _⟩ := h.listed
  obtain ⟨place, hlocate, _⟩ := FileTree.list_eq_ok hall
  have hparent : t.places.docs.parent = t.places.directory := by
    rw [t.docs_eq hfolder, Path.parent, List.dropLast_concat]
  rw [← hparent]
  exact FileTree.locate_above hlocate (hparent ▸ t.directory_filled)

theorem has_of_exported {start : String} {names : List String} {content : String → Bytes} (hnul : t.places.docs.hasNul = false)
    (h : Exported t.places.docs start names content w.files) : w.Has t.places.docs := by
  obtain ⟨all, hall, _⟩ := h.listed
  obtain ⟨place, hlocate, hat⟩ := FileTree.list_eq_ok hall
  exact World.has_iff.mpr ⟨hnul, .directory, by rw [FileTree.status_of_locate hlocate, hat]⟩

theorem located_of_directory {x y : FileTree} {place : Place} (hlocate : x.locate t.places.declaration = .ok place)
    (hhome : y.home = x.home) (hthere : ∃ above, y.locate t.places.directory = .ok above ∧ y.at? above = some .directory) :
    y.locate t.places.declaration = .ok (t.declared y.home) := by
  obtain ⟨above, habove, hat⟩ := hthere
  have hchild := FileTree.locate_concat habove hat t.declaredName
  rw [← t.declaration_eq] at hchild
  -- the name is not too long for the one tree, so it is not for the other
  rcases FileTree.locate_of_locate hlocate hhome with h | h | h
  · rw [h, ← FileTree.placeFrom_of_locate h]
    rfl
  · rw [h] at hchild
    rcases hchild with hchild | hchild <;> cases hchild
  · rw [h] at hchild
    rcases hchild with hchild | hchild <;> cases hchild

/-- Declarations that are written lie beside the export that they were generated from. -/
theorem exported_of_declare {given q q' : Progress} {v : World} (hfolder : '/' ∉ t.version.folder.toList)
    (hnamed : w.files.Named) (hgenerate : t.act .generate given w = (.ok q, v))
    (hdeclare : t.act .declare q v = (.ok q', w')) :
    t.places.docs.hasNul = false ∧ t.places.declaration.hasNul = false ∧
      v.files.write t.places.declaration (Utf8.encode q.generated.text) = .ok w'.files ∧
      ∃ names content, (∀ n ∈ names, '/' ∉ n.toList) ∧
        Exported t.places.docs t.config.registry.classPrefix names content w.files ∧
        Exported t.places.docs t.config.registry.classPrefix names content w'.files := by
  have hmade := act_generate_eq_ok hgenerate
  obtain ⟨hnul, names, content, hexport⟩ := exported_of_generate hmade
  have hnames : ∀ n ∈ names, '/' ∉ n.toList := by
    obtain ⟨all, hall, rfl⟩ := hexport.listed
    exact fun n hn => hnamed.list hall n (List.mem_filter.mp hn).1
  have hexport' : Exported t.places.docs t.config.registry.classPrefix names content v.files := by
    rwa [files_of_still (edits_generate _ _ _ _) hmade]
  obtain ⟨place, hlocate, hat⟩ := directory_of_exported hfolder hexport'
  obtain ⟨husable, hwrite⟩ := act_declare_write hlocate hat hdeclare
  refine ⟨hnul, husable, hwrite, names, content, hnames, hexport, ?_⟩
  exact exported_of_beside hfolder hnames (ne_of_endings (by decide) (by decide)) (t.declared_eq _) hwrite hexport'

/-- A build that is reported leaves everything that another one needs, if the tools leave it in place. -/
theorem prepared_of_report (hfolder : '/' ∉ t.version.folder.toList) (hr : (t.build w).1 = .ok r)
    (hnamed : ∀ p ∈ t.passages w, p.before.files.Named) (htools : ∀ p ∈ t.passages w, t.LeavesInPlace p) :
    ∃ g, (r.classCount = g.classCount ∧ r.diagnostics = g.diagnostics) ∧
      (∃ p ∈ t.passages w, p.stage = .declare ∧
        p.after.files.fileAt (t.declared w.files.home) = some (Utf8.encode g.text)) ∧
      t.Prepared g (t.build w).2 := by
  obtain ⟨q₀, w₀, w₁, q₂, w₂, w₃, q, hfetch, ⟨hdocument, hdocumented⟩, ⟨hgenerate, hgenerated⟩, ⟨hdeclare, hdeclared⟩,
    ⟨hcheck, hchecked⟩, rfl⟩ := course_of_report hr
  have hhome := t.home_build w
  have hclock := t.clock_build w
  generalize (t.build w).2 = v at hcheck hhome hclock ⊢
  have hhome₂ : w₂.files.home = w.files.home := home_before hdeclared
  have hclock₁ : w₁.clock = w.clock := by
    have hfetched := clock_runAll (t := t) t.fetching {} w
    have hexported := t.clock_act .document q₀ w₀
    rw [hfetch] at hfetched
    rw [hdocument] at hexported
    exact hexported.trans hfetched
  have hreported : q.generated = q₂.generated :=
    generated_runAll (fun hmem => absurd (t.rank_checking _ hmem) (by decide)) hcheck
  -- what the generation found is there when the declarations were written
  have hmade := act_generate_eq_ok hgenerate
  have hfiles₂ : w₂.files = w₁.files := files_of_still (edits_generate _ _ _ _) hmade
  obtain ⟨hnul, husable, hwrite, names, content, hnames, hexport, hexport₃⟩ :=
    exported_of_declare hfolder (hnamed _ hgenerated) hgenerate hdeclare
  obtain ⟨_, hlocated, _, _⟩ := FileTree.write_eq_ok hwrite
  have hsources₃ : t.LeavesSources w₀.files w₃.files :=
    (hfiles₂ ▸ leavesSources_document hdocument (htools _ hdocumented)).trans
      (leavesSources_of_grows (FileTree.grows_write hwrite))
  -- what comes afterwards leaves it there
  obtain ⟨hsources, hfound⟩ := inv_of_checking (I := fun x => t.LeavesSources w₀.files x.files ∧
      Exported t.places.docs t.config.registry.classPrefix names content x.files) hcheck ⟨hsources₃, hexport₃⟩
    fun p hp hs hok hpassed ⟨hsources, hexport⟩ =>
      (leaves_checking hfolder hnames hs hpassed hok (htools p (hchecked p hp)) hexport).imp_left hsources.trans
  have hdirectory := directory_of_exported hfolder hfound
  refine ⟨q₂.generated, ⟨?_, ?_⟩, ⟨_, hdeclared, rfl, hhome₂ ▸ act_declare_eq_ok hdeclare⟩, ?_⟩
  · exact congrArg Generated.classCount hreported
  · exact congrArg Generated.diagnostics hreported
  · refine ⟨fun hskip => ?_, fun hskip => ?_, ?_, ?_, husable, hdirectory, ?_⟩
    · obtain ⟨⟨name, hname, hfile⟩, _⟩ := sources_of_fetching hskip hfetch
      exact ⟨name, hname, hsources.isFile hname hfile⟩
    · exact hsources.isDirectory (sources_of_fetching hskip hfetch).2
    · exact has_of_exported hnul hfound
    · rw [generate_congr ⟨hfound, hexport, hclock.trans hclock₁.symm⟩, hmade]
    · exact located_of_directory hlocated (hhome.trans hhome₂.symm) hdirectory

/-- Where the declarations were, there is a directory in the end only if a tool has put it there. -/
theorem exists_replaced (hr : (t.build w).1 = .ok r)
    (hat : (t.build w).2.files.at? (t.declared w.files.home) = some .directory) :
    ∃ p ∈ t.passages w, (p.stage = .check ∨ p.stage = .format) ∧
      p.after.files.at? (t.declared w.files.home) = some .directory := by
  obtain ⟨q₀, w₀, w₁, q₂, w₂, w₃, q, _, _, _, ⟨hdeclare, hdeclared⟩, ⟨hcheck, hchecked⟩, _⟩ := course_of_report hr
  by_contra hnone
  refine inv_of_checking (I := fun x => x.files.at? (t.declared w.files.home) ≠ some .directory) hcheck ?_
    (fun p hp hs hok hpassed hbefore hafter => ?_) hat
  · have hfile := act_declare_eq_ok hdeclare
    rw [home_before hdeclared] at hfile
    intro hdirectory
    rw [FileTree.fileAt_of_directory hdirectory] at hfile
    cases hfile
  · obtain ⟨q, hq⟩ := hok
    cases hstage : p.stage with
    | reference =>
      rw [hstage, hq] at hpassed
      exact FileTree.at?_write_ne_directory (act_reference_write hpassed) hbefore hafter
    | check => exact hnone ⟨p, hchecked p hp, Or.inl hstage, hafter⟩
    | format => exact hnone ⟨p, hchecked p hp, Or.inr hstage, hafter⟩
    | _ =>
      rw [hstage] at hs
      exact absurd hs (by decide)

end Reported

end BuildTask
end AmbientDecls
