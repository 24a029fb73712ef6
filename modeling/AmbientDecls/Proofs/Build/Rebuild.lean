import AmbientDecls.Proofs.Build.Prepared

/-! Builds that are run again. A build in a world that is prepared for it changes nothing but the log until it writes the
declarations, and these are the ones that the world is prepared for. -/

namespace AmbientDecls

theorem FileTree.write_of_locate {t : FileTree} {p : Path} {q : Place} (hlocate : t.locate p = .ok q)
    (hat : t.at? q ≠ some .directory) (bytes : Bytes) : t.write p bytes = .ok (t.set q (.file bytes)) := by
  unfold write
  rw [hlocate]
  simp only [bind, Except.bind]

theorem Act.download_of_isFile {w : World} {url name : String} {directory : Path} (timeout : Float)
    (hname : Url.archiveName url = .ok name) (h : (isFile (directory.child name) w).1 = .ok true) :
    ∃ log, download url directory false timeout w = (.ok (directory.child name), { w with log := log }) := by
  unfold download
  rw [hname]
  simp only
  rw [bind_of_ok (isFile_eq h)]
  exact ⟨_, rfl⟩

theorem Act.writeDeclarations_of_located {w : World} {file : Path} {above place : Place} (text : String)
    (husable : file.hasNul = false) (hlocate : w.files.locate file.parent = .ok above)
    (hat : w.files.at? above = some .directory) (hlocated : w.files.locate file = .ok place)
    (hfree : w.files.at? place ≠ some .directory) : ∃ v, writeDeclarations text file false w = (.ok file, v) := by
  have hnul : file.parent.hasNul = false := hasNul_of_leadsTo husable (Path.LeadsTo.refl file.parent).of_parent
  have hwrite : write file (Utf8.encode text) w =
      (.ok (), { w with files := w.files.set place (.file (Utf8.encode text)) }) := by
    unfold write
    rw [change_apply husable, FileTree.write_of_locate hlocated hfree]
  obtain ⟨log, hwritten⟩ := writeDeclarations_of_write (ensure_of_directory hnul hlocate hat) hwrite
  exact ⟨_, hwritten⟩

namespace BuildTask

open Act

/-- A build of a task that has nothing to do before it writes given declarations. -/
structure Reuses (t : BuildTask) (g : Generated) (w : World) : Prop where
  /-- Up to the generation all stages succeed, and nothing is changed but the log. -/
  unchanged : ∃ q log, runAll t.act (t.fetching ++ [.document, .generate]) {} w = (.ok q, { w with log := log }) ∧
    q.generated = g
  requests : (t.build w).2.requests = w.requests
  /-- The compiler and the formatter are the only tools that are started. -/
  calls : ∃ made : List (Stage × ToolCall), (t.build w).2.calls = w.calls ++ made.map Prod.snd ∧
    ∀ x ∈ made, (x.1 = .check ∨ x.1 = .format) ∧ t.call? x.1 = some x.2
  /-- The declarations are written, unless a directory stands in their place. -/
  written : w.files.at? (t.declared w.files.home) ≠ some .directory → ∃ p ∈ t.passages w, p.stage = .declare ∧
    (∃ q, p.outcome = .ok q) ∧ p.after.files.fileAt (t.declared w.files.home) = some (Utf8.encode g.text)
  reported : ∀ r, (t.build w).1 = .ok r → r.classCount = g.classCount ∧ r.diagnostics = g.diagnostics

variable {t : BuildTask} {g : Generated} {w : World}

/-- The sources are found, so nothing is fetched. -/
theorem fetching_of_prepared (h : t.Prepared g w) :
    ∃ q log, runAll t.act t.fetching {} w = (.ok q, { w with log := log }) := by
  unfold fetching
  cases hskip : t.skipFetch with
  | true => exact ⟨{}, w.log, rfl⟩
  | false =>
    simp only [Bool.false_eq_true, if_false]
    obtain ⟨name, hname, hfile⟩ := h.archive hskip
    obtain ⟨log, hdownload⟩ := download_of_isFile t.tools.downloadTimeout hname hfile
    have hfetched : t.Prepared g { w with log := log } := h.congr rfl rfl
    obtain ⟨log', hunpack⟩ := unpack_of_directory (t.places.directory.child name).toText
      (hfetched.folder hskip)
    have hfirst : t.act .download {} w = (.ok { archive := t.places.directory.child name }, { w with log := log }) :=
      bind_of_ok hdownload
    refine ⟨{ archive := t.places.directory.child name }, log', ?_⟩
    rw [runAll_cons, hfirst]
    simp only
    rw [runAll_singleton]
    exact bind_of_ok hunpack

theorem unchanged_of_prepared (h : t.Prepared g w) : ∃ q log,
    runAll t.act (t.fetching ++ [.document, .generate]) {} w = (.ok q, { w with log := log }) ∧ q.generated = g := by
  obtain ⟨q, log₀, hfetch⟩ := fetching_of_prepared h
  have hfetched : t.Prepared g { w with log := log₀ } := h.congr rfl rfl
  obtain ⟨log₁, hexport⟩ := exportDocs_of_has t.places.sources.toText t.tools.jsduck t.version.jsduckExtra
    t.tools.timeout hfetched.docs
  have hdocumented : t.Prepared g { w with log := log₁ } := h.congr rfl rfl
  obtain ⟨log₂, hworld⟩ := world_of_still (edits_generate t.places.docs t.config (some t.version.docUrl) none)
    { w with log := log₁ }
  have hgenerate := (Prod.ext hdocumented.generated hworld :
    generate t.places.docs t.config (some t.version.docUrl) none { w with log := log₁ } = (.ok g, { w with log := log₂ }))
  have hfirst : t.act .document q { w with log := log₀ } = (.ok q, { w with log := log₁ }) := bind_of_ok hexport
  refine ⟨{ q with generated := g }, log₂, ?_, rfl⟩
  rw [runAll_append_of_ok hfetch, runAll_cons, hfirst]
  simp only
  rw [runAll_singleton]
  exact bind_of_ok hgenerate

/-- In a prepared world the declarations can be written where no directory is. -/
theorem declare_of_prepared (h : t.Prepared g w) (hat : w.files.at? (t.declared w.files.home) ≠ some .directory)
    (q : Progress) : ∃ v, t.act .declare q w = (.ok q, v) := by
  obtain ⟨u, hlog, hfiles, hclock⟩ : ∃ u : World, log .info .pipeline
      ("writing " ++ toString q.generated.classCount ++ " classes for " ++ t.version.name) w = (.ok (), u) ∧
      u.files = w.files ∧ u.clock = w.clock := ⟨_, log_apply .., rfl, rfl⟩
  have hprepared : t.Prepared g u := h.congr hfiles hclock
  obtain ⟨place, hlocate, hdirectory⟩ := hprepared.directory
  obtain ⟨v, hwritten⟩ := writeDeclarations_of_located q.generated.text h.usable hlocate hdirectory
    hprepared.located (by rwa [hfiles])
  exact ⟨v, (bind_of_ok hlog).trans (bind_of_ok hwritten)⟩

section Late

variable {s : Stage} {p : Passage Stage Progress} {q : Progress} {u : World}

theorem rank_late (hs : s ∈ Stage.declare :: t.checking) : Stage.declare.rank ≤ s.rank := by
  rcases List.mem_cons.mp hs with rfl | hs
  · exact Nat.le_refl _
  · exact Nat.le_of_lt (t.rank_checking s hs)

theorem passed_late (hp : p ∈ trail t.act (.declare :: t.checking) q u) :
    Stage.declare.rank ≤ p.stage.rank ∧ t.act p.stage p.given p.before = (p.outcome, p.after) := by
  obtain ⟨_, _, hsplit, _, hpassed⟩ := mem_trail_iff.mp hp
  have hmem : p.stage ∈ Stage.declare :: t.checking := by
    rw [hsplit]
    exact List.mem_append_right _ (List.mem_cons_self ..)
  exact ⟨rank_late hmem, hpassed⟩

theorem requests_late (q : Progress) (u : World) :
    (runAll t.act (.declare :: t.checking) q u).2.requests = u.requests := by
  refine inv_of_trail (I := fun v => v.requests = u.requests) (fun p hp hsame => ?_) rfl
  obtain ⟨hlate, hpassed⟩ := passed_late hp
  have hframe := (t.effects_frame p.stage p.given p.before).2.2.2
  rw [hpassed] at hframe
  rcases hframe with hnone | ⟨request, hrequest, _⟩
  · exact hnone.trans hsame
  -- only a download makes a request
  · cases hs : p.stage with
    | download =>
      rw [hs] at hlate
      exact absurd hlate (by decide)
    | _ =>
      rw [hs] at hrequest
      cases hrequest

theorem calls_late (q : Progress) (u : World) : ∃ made : List (Stage × ToolCall),
    (runAll t.act (.declare :: t.checking) q u).2.calls = u.calls ++ made.map Prod.snd ∧
      ∀ x ∈ made, (x.1 = .check ∨ x.1 = .format) ∧ t.call? x.1 = some x.2 := by
  have hadded : ∀ p ∈ trail t.act (.declare :: t.checking) q u, p.after.calls = p.before.calls ∨
      ∃ c, ((p.stage = .check ∨ p.stage = .format) ∧ t.call? p.stage = some c) ∧
        p.after.calls = p.before.calls ++ [c] := by
    intro p hp
    obtain ⟨hlate, hpassed⟩ := passed_late hp
    have hframe := (t.effects_frame p.stage p.given p.before).2.2.1
    rw [hpassed] at hframe
    refine hframe.imp_right fun ⟨c, hcall, hadded⟩ => ⟨c, ⟨?_, hcall⟩, hadded⟩
    cases hs : p.stage with
    | check => exact Or.inl rfl
    | format => exact Or.inr rfl
    | document =>
      rw [hs] at hlate
      exact absurd hlate (by decide)
    | _ =>
      rw [hs] at hcall
      cases hcall
  obtain ⟨made, hmade, _, hmakes⟩ := exists_made (fun v => v.calls)
    (fun s c => (s = .check ∨ s = .format) ∧ t.call? s = some c) hadded
  exact ⟨made, hmade, hmakes⟩

end Late

/-- In a prepared world a build has nothing to do before it writes the declarations. -/
theorem reuses_of_prepared (h : t.Prepared g w) : t.Reuses g w := by
  obtain ⟨q, log, hrun, hg⟩ := unchanged_of_prepared h
  have hprepared : t.Prepared g { w with log := log } := h.congr rfl rfl
  have hstages : t.stages = (t.fetching ++ [.document, .generate]) ++ .declare :: t.checking := by simp [stages]
  have hbuild : runAll t.act t.stages {} w = runAll t.act (.declare :: t.checking) q { w with log := log } := by
    rw [hstages, runAll_append_of_ok hrun]
  have hend : (t.build w).2 = (runAll t.act (.declare :: t.checking) q { w with log := log }).2 := by
    rw [build_apply, hbuild]
  refine ⟨⟨q, log, hrun, hg⟩, ?_, ?_, fun hat => ?_, fun r hr => ?_⟩
  · rw [hend, requests_late]
  · rw [hend]
    exact calls_late q { w with log := log }
  · obtain ⟨v, hdeclare⟩ := declare_of_prepared hprepared hat q
    have hfile := act_declare_eq_ok hdeclare
    rw [hg] at hfile
    exact ⟨⟨.declare, q, _, .ok q, v⟩, mem_trail_iff.mpr ⟨_, _, hstages, hrun, hdeclare⟩, rfl, ⟨q, rfl⟩, hfile⟩
  · obtain ⟨q', v, hall, rfl⟩ := runAll_of_report hr
    rw [hbuild] at hall
    have hsame : q'.generated = q.generated :=
      generated_runAll (fun hmem => absurd (rank_late hmem) (by decide)) hall
    rw [hg] at hsame
    exact ⟨congrArg Generated.classCount hsame, congrArg Generated.diagnostics hsame⟩

/-- It does not matter what is skipped, but for a fetch that was skipped before. -/
theorem Prepared.again {again : BuildTask} (h : t.Prepared g w) (hversion : again.version = t.version)
    (hconfig : again.config = t.config) (hskip : t.skipFetch = true → again.skipFetch = true) :
    again.Prepared g w := by
  obtain ⟨version, config, skipFetch, skipCheck⟩ := again
  obtain rfl : version = t.version := hversion
  obtain rfl : config = t.config := hconfig
  have hfetch : skipFetch = false → t.skipFetch = false := by
    rintro rfl
    exact Bool.eq_false_iff.mpr fun hskipped => Bool.false_ne_true (hskip hskipped)
  exact ⟨fun hs => h.archive (hfetch hs), fun hs => h.folder (hfetch hs), h.docs, h.generated, h.usable, h.directory,
    h.located⟩

/-- A build that is run again where it was reported asks for nothing, unpacks nothing and exports nothing, and it writes the
declarations that it wrote before, with as many classes and the same diagnostics. All that the tools have to do for that is
to leave the archive, the folder and the export in place. The declarations are written unless a tool has put a directory
where they were. -/
theorem rebuild_reuses {again : BuildTask} {r : BuildReport} {w' : World}
    (hversion : again.version = t.version) (hconfig : again.config = t.config)
    (hskip : t.skipFetch = true → again.skipFetch = true) (hfolder : '/' ∉ t.version.folder.toList)
    (hr : (t.build w).1 = .ok r) (hnamed : ∀ p ∈ t.passages w, p.before.files.Named)
    (htools : ∀ p ∈ t.passages w, t.LeavesInPlace p) (hfiles : w'.files = (t.build w).2.files)
    (hclock : w'.clock = w.clock) :
    ∃ g, (r.classCount = g.classCount ∧ r.diagnostics = g.diagnostics) ∧
      (∃ p ∈ t.passages w, p.stage = .declare ∧
        p.after.files.fileAt (t.declared w.files.home) = some (Utf8.encode g.text)) ∧
      again.Reuses g w' ∧
      (w'.files.at? (t.declared w.files.home) = some .directory →
        ∃ p ∈ t.passages w, (p.stage = .check ∨ p.stage = .format) ∧
          p.after.files.at? (t.declared w.files.home) = some .directory) := by
  obtain ⟨g, hreport, hdeclared, hprepared⟩ := prepared_of_report hfolder hr hnamed htools
  have hagain := (hprepared.congr hfiles (hclock.trans (t.clock_build w).symm)).again hversion hconfig hskip
  refine ⟨g, hreport, hdeclared, reuses_of_prepared hagain, fun hat => ?_⟩
  rw [hfiles] at hat
  exact exists_replaced hr hat

section Example

/-! A build whose archive is fetched, for sources that are there. The export finds no class. -/

def fetchingTask : BuildTask :=
  ⟨{ name := "v", folder := "e", url := "http://h/e.zip" }, {}, false, true⟩

def sourceHost : World where
  files := ⟨[(["build"], .directory), (["build", "v"], .directory), (["build", "v", "e"], .directory)], []⟩
  tools := [⟨[(⟨0, ["build", "v", "e.docs", "index.html"]⟩, .file [])], .exited 0 "" ""⟩]
  transfers := [.body [[1, 2], [3]] none]
  clock := ⟨2024, 1, 2, 3, 4, 5, 0, none⟩

def fetchedFiles : FileTree :=
  { sourceHost.files with nodes := (["build", "v", "e.zip"], .file [1, 2, 3]) :: sourceHost.files.nodes }

def exportedFiles : FileTree :=
  { fetchedFiles with nodes := (["build", "v", "e.docs", "index.html"], .file []) ::
    (["build", "v", "e.docs"], .directory) :: fetchedFiles.nodes }

/-- The host with the archive. -/
def fetchedHost (requests : List Request) (log : List LogRecord) : World :=
  { sourceHost with files := fetchedFiles, transfers := [], requests := requests, log := log }

/-- The host with the archive and the export. -/
def exportedHost (requests : List Request) (calls : List ToolCall) (log : List LogRecord) : World :=
  { fetchedHost requests log with files := exportedFiles, tools := [], calls := calls }

/-- What is known once the archive is there. -/
def fetchedProgress : Progress := { archive := ⟨0, ["build", "v", "e.zip"]⟩ }

theorem fetchingTask_places : fetchingTask.places = ⟨⟨0, ["build", "v", "v.d.ts"]⟩, ⟨0, ["build", "v"]⟩,
    ⟨0, ["build", "v", "e", "src"]⟩, ⟨0, ["build", "v", "e.docs"]⟩⟩ := by decide +kernel

theorem download_sourceHost : ∃ requests log,
    fetchingTask.act .download {} sourceHost = (.ok fetchedProgress, fetchedHost requests log) := by
  have hdownload : ∀ timeout, download "http://h/e.zip" ⟨0, ["build", "v"]⟩ false timeout sourceHost =
      (.ok ⟨0, ["build", "v", "e.zip"]⟩, fetchedHost [⟨"http://h/e.zip", timeout⟩]
        [⟨.info, .fetch, "downloading http://h/e.zip"⟩, ⟨.info, .fetch, "downloaded build/v/e.zip (3 bytes)"⟩]) := by
    intro timeout
    cbv
  simp only [act, fetchingTask_places]
  exact ⟨_, _, bind_of_ok (hdownload _)⟩

section Hosts

variable (requests : List Request) (calls : List ToolCall) (log : List LogRecord)

theorem unpack_fetchedHost : ∃ log', fetchingTask.act .unpack fetchedProgress (fetchedHost requests log) =
    (.ok fetchedProgress, fetchedHost requests log') := by
  have hthere : (isDirectory ((⟨0, ["build", "v"]⟩ : Path).child "e") (fetchedHost requests log)).1 = .ok true := by
    cbv
  obtain ⟨log', hunpack⟩ := unpack_of_directory fetchedProgress.archive.toText hthere
  simp only [act, fetchingTask_places]
  exact ⟨log', bind_of_ok hunpack⟩

theorem document_fetchedHost : ∃ calls log', fetchingTask.act .document fetchedProgress (fetchedHost requests log) =
    (.ok fetchedProgress, exportedHost requests calls log') := by
  have hexport : exportDocs "build/v/e/src" ⟨0, ["build", "v", "e.docs"]⟩ "jsduck" "" 600 (fetchedHost requests log) =
      (.ok true, exportedHost requests
        [⟨["jsduck", "build/v/e/src", "--export=full", "--output", "build/v/e.docs"], 600⟩]
        (log ++ [⟨.debug, .process, "running jsduck build/v/e/src --export=full --output build/v/e.docs"⟩])) := by
    cbv
  simp only [act, fetchingTask_places]
  exact ⟨_, _, bind_of_ok hexport⟩

theorem generate_exportedHost : ∃ q log', fetchingTask.act .generate fetchedProgress (exportedHost requests calls log) =
    (.ok q, exportedHost requests calls log') := by
  have hload : (loadRegistry ⟨0, ["build", "v", "e.docs"]⟩ {} (exportedHost requests calls log)).1.isOk = true := by
    cbv
  obtain ⟨r, hr⟩ := eq_ok_of_isOk hload
  change loadRegistry _ fetchingTask.config.registry _ = _ at hr
  obtain ⟨g, log', hg⟩ := generate_of_load hr
  simp only [act, fetchingTask_places]
  exact ⟨_, log', bind_of_ok hg⟩

theorem declare_exportedHost (q : Progress) : ∃ v,
    fetchingTask.act .declare q (exportedHost requests calls log) = (.ok q, v) := by
  have hwrite : ∀ log, ∃ v, writeDeclarations q.generated.text ⟨0, ["build", "v", "v.d.ts"]⟩ false
      (exportedHost requests calls log) = (.ok ⟨0, ["build", "v", "v.d.ts"]⟩, v) := by
    intro log
    have habove : (exportedHost requests calls log).files.locate ⟨0, ["build", "v"]⟩ = .ok ["build", "v"] := by cbv
    have hplace : (exportedHost requests calls log).files.locate ⟨0, ["build", "v", "v.d.ts"]⟩ =
        .ok ["build", "v", "v.d.ts"] := by cbv
    exact writeDeclarations_of_located q.generated.text (by cbv) habove (by cbv) hplace (by cbv; rintro ⟨⟩)
  simp only [act, fetchingTask_places]
  rw [bind_of_ok (log_apply ..)]
  obtain ⟨v, hv⟩ := hwrite (log ++ [_])
  exact ⟨v, bind_of_ok hv⟩

/-- The tool that exports writes nothing but the export. -/
theorem leavesInPlace_fetchedHost {outcome : Except Failure Progress} {v : World} :
    fetchingTask.LeavesInPlace ⟨.document, fetchedProgress, fetchedHost requests log, outcome, v⟩ := by
  intro c u _ hmade
  let made : FileTree := { fetchedFiles with nodes := (["build", "v", "e.docs"], .directory) :: fetchedFiles.nodes }
  have hnew : makeNew ⟨0, ["build", "v", "e.docs"]⟩ (fetchedHost requests log) =
      (.ok (), { fetchedHost requests log with files := made }) := by cbv
  have hexported : ∀ args timeout,
      (World.start { fetchedHost requests log with files := made } args timeout).2.files = exportedFiles := by
    intro args timeout
    cbv
  rw [fetchingTask_places] at hmade
  obtain ⟨-, rfl⟩ := Prod.mk.inj (hnew.symm.trans hmade)
  rw [hexported]
  have harchive : exportedFiles.isFile ((⟨0, ["build", "v"]⟩ : Path).child "e.zip") = true := by cbv
  have hfolder : exportedFiles.isDirectory ((⟨0, ["build", "v"]⟩ : Path).child "e") = true := by cbv
  refine ⟨fun name hname _ => ?_, fun _ => ?_⟩
  · have hzip : Url.archiveName "http://h/e.zip" = .ok "e.zip" := by cbv
    obtain rfl := Except.ok.inj (hzip.symm.trans hname)
    rw [fetchingTask_places]
    exact harchive
  · rw [fetchingTask_places]
    exact hfolder

end Hosts

theorem passages_sourceHost : ∃ requests log₁ log₂ calls log₃ log₄ q v, fetchingTask.passages sourceHost =
    [⟨.download, {}, sourceHost, .ok fetchedProgress, fetchedHost requests log₁⟩,
      ⟨.unpack, fetchedProgress, fetchedHost requests log₁, .ok fetchedProgress, fetchedHost requests log₂⟩,
      ⟨.document, fetchedProgress, fetchedHost requests log₂, .ok fetchedProgress, exportedHost requests calls log₃⟩,
      ⟨.generate, fetchedProgress, exportedHost requests calls log₃, .ok q, exportedHost requests calls log₄⟩,
      ⟨.declare, q, exportedHost requests calls log₄, .ok q, v⟩] := by
  obtain ⟨requests, log₁, hdownload⟩ := download_sourceHost
  obtain ⟨log₂, hunpack⟩ := unpack_fetchedHost requests log₁
  obtain ⟨calls, log₃, hdocument⟩ := document_fetchedHost requests log₂
  obtain ⟨q, log₄, hgenerate⟩ := generate_exportedHost requests calls log₃
  obtain ⟨v, hdeclare⟩ := declare_exportedHost requests calls log₄ q
  refine ⟨requests, log₁, log₂, calls, log₃, log₄, q, v, ?_⟩
  change trail fetchingTask.act [.download, .unpack, .document, .generate, .declare] {} sourceHost = _
  rw [trail_cons_of_ok hdownload, trail_cons_of_ok hunpack, trail_cons_of_ok hdocument, trail_cons_of_ok hgenerate,
    trail_cons_of_ok hdeclare]
  rfl

theorem rebuild_reuses_fetched : ∃ r, ('/' ∉ fetchingTask.version.folder.toList ∧
      (fetchingTask.build sourceHost).1 = .ok r ∧ (∀ p ∈ fetchingTask.passages sourceHost, p.before.files.Named) ∧
      ∀ p ∈ fetchingTask.passages sourceHost, fetchingTask.LeavesInPlace p) ∧
    ∃ g, (r.classCount = g.classCount ∧ r.diagnostics = g.diagnostics) ∧
      fetchingTask.Reuses g (fetchingTask.build sourceHost).2 := by
  obtain ⟨requests, log₁, log₂, calls, log₃, log₄, q, v, hpassages⟩ := passages_sourceHost
  have hfolder : '/' ∉ fetchingTask.version.folder.toList := by decide
  have hr : (fetchingTask.build sourceHost).1 = .ok (fetchingTask.report q) := by
    obtain ⟨p, hlast, hrun⟩ := getLast?_trail (b := ({} : Progress)) (w := sourceHost) fetchingTask.stages_ne_nil
    change (fetchingTask.passages sourceHost).getLast? = some p at hlast
    rw [hpassages] at hlast
    cases hlast
    rw [build_apply, hrun]
    rfl
  have hnamed : ∀ p ∈ fetchingTask.passages sourceHost, p.before.files.Named := by
    rw [hpassages]
    have hsources : sourceHost.files.Named := by
      unfold FileTree.Named
      decide +kernel
    have hfetched : fetchedFiles.Named := by
      unfold FileTree.Named
      decide +kernel
    have hexported : exportedFiles.Named := by
      unfold FileTree.Named
      decide +kernel
    simp only [List.forall_mem_cons]
    exact ⟨hsources, hfetched, hfetched, hexported, hexported, by simp⟩
  have htools : ∀ p ∈ fetchingTask.passages sourceHost, fetchingTask.LeavesInPlace p := by
    rw [hpassages]
    simp only [List.forall_mem_cons]
    exact ⟨trivial, trivial, leavesInPlace_fetchedHost _ _, trivial, trivial, by simp⟩
  obtain ⟨g, hreport, _, hreuses, _⟩ := rebuild_reuses (rfl : fetchingTask.version = _) rfl id hfolder hr hnamed
    htools rfl (fetchingTask.clock_build sourceHost)
  exact ⟨_, ⟨hfolder, hr, hnamed, htools⟩, g, hreport, hreuses⟩

end Example

end BuildTask
end AmbientDecls
