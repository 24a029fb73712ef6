import AmbientDecls.Proofs.Build.Kept
import AmbientDecls.Proofs.Build.Places

/-! What the stages of a build do. A stage makes at most the request or the call of a tool that is its own, and but for the
one that writes the declarations and a formatter it leaves them as they are. -/

namespace AmbientDecls

def Stage.rank : Stage → Nat
  | .download => 0
  | .unpack => 1
  | .document => 2
  | .generate => 3
  | .declare => 4
  | .reference => 5
  | .check => 6
  | .format => 7

namespace BuildTask

variable (t : BuildTask)

/-- The request that a stage may make. -/
def request? : Stage → Option Request
  | .download => some ⟨t.version.url, t.tools.downloadTimeout⟩
  | _ => none

/-- The call of a tool that a stage may make. -/
def call? : Stage → Option ToolCall
  | .document =>
    match ShellWords.ofText t.version.jsduckExtra with
    | .ok words => some ⟨Act.exportArgs t.places.sources.toText t.places.docs t.tools.jsduck words, t.tools.timeout⟩
    | .error _ => none
  | .check => some ⟨t.checkArgs, t.tools.timeout⟩
  | .format => some ⟨t.formatArgs, t.tools.timeout⟩
  | _ => none

/-- What an archive, its entries or a tool brings in a stage is not written to a place. -/
def KeepsOff (place : Place) (p : Passage Stage Progress) : Prop :=
  let home := p.before.files.home
  match p.stage with
  | .download => ∀ name, Url.archiveName t.version.url = .ok name →
      (t.places.directory.child name).placeFrom home ≠ place
  | .unpack => ∀ bytes entries, p.before.files.readNamed p.given.archive.toText = .ok bytes →
      Zip.entries bytes = .ok entries → ∀ e ∈ entries, e.isDirectory = false →
        (Act.entryPath t.places.directory e).placeFrom home ≠ place
  | .document | .check => ∀ run ∈ p.before.tools.head?, ∀ e ∈ run.writes, home ++ e.1.parts ≠ place
  | _ => True

theorem pairwise_stages : t.stages.Pairwise fun a b => a.rank < b.rank := by
  unfold stages fetching checking
  cases t.skipFetch <;> cases t.skipCheck <;> cases t.tools.formatOutput <;> decide

theorem stages_ne_nil : t.stages ≠ [] := List.append_ne_nil_of_right_ne_nil _ (List.cons_ne_nil _ _)

theorem mem_stages_iff {s : Stage} : s ∈ t.stages ↔ match s with
    | .download | .unpack => t.skipFetch = false
    | .document | .generate | .declare => True
    | .reference | .check => t.skipCheck = false
    | .format => t.skipCheck = false ∧ t.tools.formatOutput = true := by
  unfold stages fetching checking
  cases s <;> cases t.skipFetch <;> cases t.skipCheck <;> cases t.tools.formatOutput <;> decide

/-- Between edits of files a stage makes the request and the call that it may make. -/
def Effects (s : Stage) (act : Act Progress) : Prop :=
  ∃ effect : World → World, Act.EditsOnce FileTree.SameHome effect act ∧ ∀ v,
    (effect v).files.home = v.files.home ∧ (effect v).tools <:+ v.tools ∧
    (effect v).calls = v.calls ++ (t.call? s).toList ∧
    (effect v).requests = v.requests ++ (t.request? s).toList ∧ (effect v).clock = v.clock

variable {s : Stage} {act : Act Progress}

theorem effects_of_edits {t : BuildTask} (h : Act.Edits FileTree.SameHome act) (hcall : t.call? s = none)
    (hrequest : t.request? s = none) : t.Effects s act := by
  refine ⟨id, h.once id, fun v => ⟨rfl, List.suffix_refl _, ?_, ?_, rfl⟩⟩
  · rw [hcall]
    exact (List.append_nil _).symm
  · rw [hrequest]
    exact (List.append_nil _).symm

theorem effects_of_start {t : BuildTask} {args : List String}
    (h : Act.EditsOnce FileTree.SameHome (fun w => (w.start args t.tools.timeout).2) act)
    (hcall : t.call? s = some ⟨args, t.tools.timeout⟩) (hrequest : t.request? s = none) :
    t.Effects s act := by
  refine ⟨_, h, fun v => ?_⟩
  obtain ⟨hhome, htools, hcalls, hrequests, hclock⟩ := World.start_frame args t.tools.timeout v
  refine ⟨hhome, htools, ?_, ?_, hclock⟩
  · rw [hcall]
    exact hcalls
  · rw [hrequest, hrequests]
    exact (List.append_nil _).symm

theorem effects_of_transfer {t : BuildTask} {url : String} {timeout : Float}
    (h : Act.EditsOnce FileTree.SameHome (fun w => (Act.nextTransfer url timeout w).2) act)
    (hcall : t.call? s = none) (hrequest : t.request? s = some ⟨url, timeout⟩) : t.Effects s act := by
  refine ⟨_, h, fun v => ?_⟩
  obtain ⟨hfiles, htools, hcalls, hrequests⟩ := World.nextTransfer_frame url timeout v
  refine ⟨congrArg _ hfiles, htools ▸ List.suffix_refl _, ?_, ?_, by rw [World.nextTransfer_apply]⟩
  · rw [hcall, hcalls]
    exact (List.append_nil _).symm
  · rw [hrequest]
    exact hrequests

/-- The stages before and after a check are always the same. -/
theorem eq_of_check_split {done left : List Stage} (h : t.stages = done ++ .check :: left) :
    done = t.fetching ++ [.document, .generate, .declare, .reference] ∧
      left = if t.tools.formatOutput then [.format] else [] := by
  have hskip : t.skipCheck = false := (t.mem_stages_iff (s := .check)).mp
    (h ▸ List.mem_append_right done (List.mem_cons_self ..))
  have hstages : t.stages = (t.fetching ++ [.document, .generate, .declare, .reference]) ++
      .check :: if t.tools.formatOutput then [.format] else [] := by
    simp [stages, checking, hskip]
  have hbefore : .check ∉ t.fetching ++ [.document, .generate, .declare, .reference] := by
    unfold fetching
    cases t.skipFetch <;> decide
  have hafter : .check ∉ if t.tools.formatOutput then [Stage.format] else [] := by
    cases t.tools.formatOutput <;> decide
  rw [hstages, List.append_cons_inj_of_notMem hbefore hafter] at h
  exact ⟨h.1.symm, h.2.2.symm⟩

open Act in
theorem edits_check (E : FileTree → FileTree → Prop) (p : Progress) :
    EditsOnce E (fun w => (w.start t.checkArgs t.tools.timeout).2) (t.act .check p) := by
  refine (edits_runTool _ _ _ _).bind fun result => ?_
  obtain ⟨ok, code, output⟩ := result
  cases ok with
  | false => exact (edits_throw _).bind fun _ => edits_pure _
  | true => exact (edits_log _ _ _).bind fun _ => edits_pure _

open Act in
theorem effects_act (s : Stage) (p : Progress) : t.Effects s (t.act s p) := by
  have hmake : ∀ p t u, t.makeDirectory p = .ok u → FileTree.SameHome t u :=
    fun _ _ _ => FileTree.sameHome_makeDirectory
  cases s with
  | download =>
    refine effects_of_transfer ((edits_download hmake fun name _ => ?_).bind fun _ => edits_pure _) rfl rfl
    exact ⟨fun _ _ _ => FileTree.sameHome_write, fun _ _ => FileTree.sameHome_unlink,
      fun _ _ => FileTree.sameHome_rename⟩
  | unpack =>
    have hunpack : Edits FileTree.SameHome
        (unpack p.archive.toText t.places.directory t.version.folder) :=
      fun w => edited_unpack hmake fun _ _ _ _ _ _ _ _ _ _ => FileTree.sameHome_write
    exact effects_of_edits (hunpack.bind fun _ => edits_pure _) rfl rfl
  | document =>
    cases hwords : ShellWords.ofText t.version.jsduckExtra with
    | error fault =>
      have hexport := edits_exportDocs_of_error hmake hwords
      exact effects_of_edits ((hexport _ _ _ _).bind fun _ => edits_pure _) (by simp [call?, hwords]) rfl
    | ok words =>
      have hexport := edits_exportDocs hmake (fun files => files.sameHome_removeAll t.places.docs) hwords
      exact effects_of_start ((hexport _ _ _).bind fun _ => edits_pure _) (by simp [call?, hwords]) rfl
  | generate =>
    exact effects_of_edits ((edits_generate _ _ _ _).bind fun _ => edits_pure _) rfl rfl
  | declare =>
    refine effects_of_edits ((edits_log _ _ _).bind fun _ => ?_) rfl rfl
    refine (edits_writeDeclarations hmake (fun _ _ _ => FileTree.sameHome_write) false).bind fun _ => ?_
    exact edits_pure _
  | reference =>
    refine effects_of_edits (Edits.bind ?_ fun _ => edits_pure _) rfl rfl
    exact edits_writeReference fun _ _ _ => FileTree.sameHome_write
  | check => exact effects_of_start (t.edits_check _ p) rfl rfl
  | format =>
    refine effects_of_start ((edits_runTool _ _ _ _).bind fun result => ?_) rfl rfl
    split
    · exact (edits_log _ _ _).bind fun _ => edits_pure _
    · exact edits_pure _

theorem effects_frame (s : Stage) (p : Progress) (w : World) :
    let w' := (t.act s p w).2
    w'.files.home = w.files.home ∧ w'.tools <:+ w.tools ∧
    (w'.calls = w.calls ∨ ∃ c, t.call? s = some c ∧ w'.calls = w.calls ++ [c]) ∧
    (w'.requests = w.requests ∨ ∃ r, t.request? s = some r ∧ w'.requests = w.requests ++ [r]) := by
  obtain ⟨effect, honce, heffect⟩ := t.effects_act s p
  have hadded : ∀ {α : Type} {l l' : List α} {a? : Option α}, l' = l ++ a?.toList →
      l' = l ∨ ∃ a, a? = some a ∧ l' = l ++ [a] := by
    intro α l l' a? h
    cases a? with
    | none => exact Or.inl (h.trans (List.append_nil l))
    | some a => exact Or.inr ⟨a, rfl, h⟩
  rcases honce w with hnone | ⟨v, hbefore, hafter⟩
  · exact ⟨hnone.home_eq, hnone.tools ▸ List.suffix_refl _, Or.inl hnone.calls, Or.inl hnone.requests⟩
  · obtain ⟨hhome, htools, hcalls, hrequests, _⟩ := heffect v
    refine ⟨?_, ?_, hadded ?_, hadded ?_⟩
    · rw [hafter.home_eq, hhome, hbefore.home_eq]
    · rw [hafter.tools, ← hbefore.tools]
      exact htools
    · rw [hafter.calls, hcalls, hbefore.calls]
    · rw [hafter.requests, hrequests, hbefore.requests]

/-- Time stands still in a build. -/
theorem clock_act (s : Stage) (p : Progress) (w : World) : (t.act s p w).2.clock = w.clock := by
  obtain ⟨effect, honce, heffect⟩ := t.effects_act s p
  rcases honce w with hnone | ⟨v, hbefore, hafter⟩
  · exact hnone.clock
  · rw [hafter.clock, (heffect v).2.2.2.2, hbefore.clock]

open Act in
theorem fileAt_document (p : Progress) {w : World} {place : Place} (hw : w.files.WellFormed)
    (hoff : ∀ run ∈ w.tools.head?, ∀ e ∈ run.writes, w.files.home ++ e.1.parts ≠ place) :
    (t.act .document p w).2.files.fileAt place = w.files.fileAt place := by
  unfold act
  rw [bind_pure_world]
  exact fileAt_exportDocs hw hoff

open Act in
theorem fileAt_reference (p : Progress) (w : World) :
    (t.act .reference p w).2.files.fileAt (t.declared w.files.home) =
      w.files.fileAt (t.declared w.files.home) := by
  have hplace := t.reference_ne_declared w.files.home
  unfold reference at hplace
  unfold act writeReference writeText
  rw [bind_pure_world, bind_pure_world]
  exact fileAt_write_of_ne hplace _

section Run

variable {t} {w : World} {p : Passage Stage Progress}

theorem home_act {s : Stage} {given : Progress} {outcome : Except Failure Progress} {v v' : World}
    (h : t.act s given v = (outcome, v')) : v'.files.home = v.files.home := by
  have hframe := (t.effects_frame s given v).1
  rwa [h] at hframe

theorem passed (hp : p ∈ t.passages w) : t.act p.stage p.given p.before = (p.outcome, p.after) := by
  obtain ⟨_, _, _, _, hpassed⟩ := mem_trail_iff.mp hp
  exact hpassed

/-- What the stages that come earlier preserve holds when the build comes to a stage. -/
theorem inv_before (hp : p ∈ t.passages w) {I : World → Prop} (hw : I w)
    (h : ∀ q ∈ t.passages w, q.stage.rank < p.stage.rank → I q.before → I q.after) : I p.before := by
  obtain ⟨done, left, hsplit, hinv⟩ := exists_inv_before hp
  refine hinv I hw fun q hq hdone => h q hq ?_
  have hpairs := t.pairwise_stages
  rw [hsplit, List.pairwise_append] at hpairs
  exact hpairs.2.2 _ hdone _ (List.mem_cons_self ..)

theorem home_before (hp : p ∈ t.passages w) : p.before.files.home = w.files.home := by
  refine inv_before hp (I := fun v => v.files.home = w.files.home) rfl fun q hq _ hhome => ?_
  exact (home_act (passed hq)).trans hhome

open Act FileTree in
theorem keeps_fetch (hp : p ∈ t.passages w) (hoff : t.KeepsOff (t.declared w.files.home) p)
    (hrank : p.stage.rank < 2) :
    Keeps w.files.home (t.declared w.files.home) p.before.files p.after.files := by
  have hpassed := passed hp
  have hmake : ∀ path files files', files.makeDirectory path = .ok files' →
      Keeps w.files.home (t.declared w.files.home) files files' :=
    fun _ _ _ => keeps_makeDirectory _ _
  unfold KeepsOff at hoff
  rw [home_before hp] at hoff
  cases hs : p.stage with
  | download =>
    rw [hs] at hpassed hoff
    -- the part file never has the name of the declarations, the archive might
    have hdownload : EditsOnce (Keeps w.files.home (t.declared w.files.home))
        (fun v => (nextTransfer t.version.url t.tools.downloadTimeout v).2)
        (t.act .download p.given) := by
      refine (edits_download hmake fun name hname => ?_).bind fun _ => edits_pure _
      have hpart := t.partPath_ne_declared w.files.home (t.places.directory.child name)
      exact ⟨fun _ _ _ => keeps_write hpart, fun _ _ => keeps_unlink hpart,
        fun _ _ => keeps_rename hpart (hoff name hname)⟩
    have hkeeps := hdownload.keeps (fun v => (World.nextTransfer_frame _ _ v).1) p.before
    rwa [hpassed] at hkeeps
  | unpack =>
    rw [hs] at hpassed hoff
    have hunpack : p.before.Edited (Keeps w.files.home (t.declared w.files.home))
        (t.act .unpack p.given p.before).2 := by
      refine edited_bind (edited_unpack hmake fun bytes entries hbytes hentries e he hfile => ?_) ?_
      · exact fun _ _ _ => keeps_write (hoff bytes entries hbytes hentries e he hfile)
      · exact fun _ v _ => edits_pure _ v
    rw [hpassed] at hunpack
    exact hunpack.keeps
  | _ =>
    rw [hs] at hrank
    exact absurd hrank (by decide)

/-- Until a tool runs everything is in directories. -/
theorem wellFormed_before (hw : w.files.WellFormed)
    (hoff : ∀ p ∈ t.passages w, t.KeepsOff (t.declared w.files.home) p) (hp : p ∈ t.passages w)
    (hrank : p.stage.rank ≤ 2) : p.before.files.WellFormed := by
  -- the stages before are those that fetch the sources
  refine (inv_before hp (I := fun v => v.files.home = w.files.home ∧ v.files.WellFormed) ⟨rfl, hw⟩
    fun q hq hbefore hsound => ?_).2
  exact (keeps_fetch hq (hoff q hq) (Nat.lt_of_lt_of_le hbefore hrank) hsound).1

open Act FileTree in
/-- No stage but one changes the file of the declarations, except that a formatter may. -/
theorem fileAt_passed (hw : w.files.WellFormed)
    (hoff : ∀ p ∈ t.passages w, t.KeepsOff (t.declared w.files.home) p) (hp : p ∈ t.passages w)
    (hdeclare : p.stage ≠ .declare) (hformat : p.stage ≠ .format) :
    p.after.files.fileAt (t.declared w.files.home) = p.before.files.fileAt (t.declared w.files.home) := by
  have hpassed := passed hp
  have hhome := home_before hp
  have hsound : p.stage.rank ≤ 2 → p.before.files.home = w.files.home ∧ p.before.files.WellFormed :=
    fun hrank => ⟨hhome, wellFormed_before hw hoff hp hrank⟩
  have hkeepsOff := hoff p hp
  unfold KeepsOff at hkeepsOff
  cases hs : p.stage with
  | download | unpack =>
    exact (keeps_fetch hp (hoff p hp) (hs ▸ by decide) (hsound (hs ▸ by decide))).2
  | document =>
    rw [hs] at hpassed hkeepsOff hsound
    have hfile := t.fileAt_document p.given (hsound (by decide)).2 hkeepsOff
    rwa [hpassed] at hfile
  | generate =>
    rw [hs] at hpassed
    have hstill : Edits (fun _ _ => False) (t.act .generate p.given) :=
      (edits_generate _ _ _ _).bind fun _ => edits_pure _
    rw [files_of_still hstill hpassed]
  | declare => exact absurd hs hdeclare
  | reference =>
    rw [hs] at hpassed
    have hfile := t.fileAt_reference p.given p.before
    rwa [hpassed, hhome] at hfile
  | check =>
    rw [hs] at hpassed hkeepsOff
    have hfile := (t.edits_check _ p.given).fileAt_start hkeepsOff
    rwa [hpassed] at hfile
  | format => exact absurd hs hformat

open Act in
/-- The check succeeds only if the compiler exits with zero. -/
theorem act_check_eq_ok {given q : Progress} {v v' : World} (h : t.act .check given v = (.ok q, v')) :
    (∃ output errors, (v.start t.checkArgs t.tools.timeout).1 =
      .exited 0 output errors) ∧ q = { given with checked := true } := by
  obtain ⟨result, u, hrun, hrest⟩ := bind_eq_ok h
  obtain ⟨code, output, errors, hfinish, rfl⟩ := runTool_eq_ok (by simp [checkArgs]) hrun
  by_cases hcode : code = 0
  · simp only [hcode, decide_true, Bool.not_true, if_true, Bool.false_eq_true, if_false] at hrest
    cases hrest
    exact ⟨⟨output, errors, hcode ▸ hfinish⟩, rfl⟩
  · simp only [hcode, decide_false, Bool.not_false, if_true, Bool.false_eq_true, if_false] at hrest
    cases hrest

open Act in
theorem act_generate_eq_ok {given q : Progress} {v v' : World} (h : t.act .generate given v = (.ok q, v')) :
    generate t.places.docs t.config (some t.version.docUrl) none v = (.ok q.generated, v') := by
  obtain ⟨g, _, hgenerate, hpure⟩ := bind_eq_ok h
  cases hpure
  exact hgenerate

open Act in
theorem act_declare_eq_ok {given q : Progress} {v v' : World} (h : t.act .declare given v = (.ok q, v')) :
    v'.files.fileAt (t.declared v.files.home) = some (Utf8.encode given.generated.text) := by
  obtain ⟨_, u, hlog, hrest⟩ := bind_eq_ok h
  obtain ⟨_, _, hwrite, hpure⟩ := bind_eq_ok hrest
  cases hpure
  have hfile := fileAt_writeDeclarations hwrite
  have hhome : u.files.home = v.files.home := congrArg (fun r => r.2.files.home) hlog.symm
  rw [hhome] at hfile
  exact hfile

open Act in
theorem act_reference_eq_ok {given q : Progress} {v v' : World}
    (h : t.act .reference given v = (.ok q, v')) :
    v'.files.fileAt (t.reference.placeFrom v.files.home) =
      some (Utf8.encode (referenceText t.places.declaration.name)) := by
  obtain ⟨_, _, hwrite, hpure⟩ := bind_eq_ok h
  cases hpure
  unfold reference
  exact fileAt_writeReference hwrite

theorem home_runAll (stages : List Stage) (given : Progress) (w : World) :
    (Act.runAll t.act stages given w).2.files.home = w.files.home := by
  refine inv_of_trail (I := fun v => v.files.home = w.files.home) (fun p hp hhome => ?_) rfl
  obtain ⟨_, _, _, _, hpassed⟩ := mem_trail_iff.mp hp
  exact (home_act hpassed).trans hhome

theorem clock_runAll (stages : List Stage) (given : Progress) (w : World) :
    (Act.runAll t.act stages given w).2.clock = w.clock := by
  refine inv_of_trail (I := fun v => v.clock = w.clock) (fun p hp hclock => ?_) rfl
  obtain ⟨_, _, _, _, hpassed⟩ := mem_trail_iff.mp hp
  have hstill := t.clock_act p.stage p.given p.before
  rw [hpassed] at hstill
  exact hstill.trans hclock

open Act in
/-- What is known after a stage: what was known before it, but for the one entry that the stage is about. -/
theorem progress_act {s : Stage} {given q : Progress} {v v' : World} (h : t.act s given v = (.ok q, v')) :
    match s with
    | .download => q = { given with archive := q.archive }
    | .generate => q = { given with generated := q.generated }
    | .check => q = { given with checked := true }
    | .format => q = { given with formatted := q.formatted }
    | _ => q = given := by
  cases s with
  | download | unpack | document | generate | reference =>
    obtain ⟨_, _, _, hpure⟩ := bind_eq_ok h
    cases hpure
    rfl
  | declare =>
    obtain ⟨_, _, _, hrest⟩ := bind_eq_ok h
    obtain ⟨_, _, _, hpure⟩ := bind_eq_ok hrest
    cases hpure
    rfl
  | check => exact (act_check_eq_ok h).2
  | format =>
    obtain ⟨result, _, _, hrest⟩ := bind_eq_ok h
    split at hrest
    · cases hrest
      rfl
    · cases hrest
      rfl

open Act in
/-- An entry that none of the stages is about stays as it was. -/
theorem entry_runAll {α : Type} (entry : Progress → α) {stages : List Stage} {given q : Progress} {v v' : World}
    (hkept : ∀ s ∈ stages, ∀ given q v v', t.act s given v = (.ok q, v') → entry q = entry given)
    (h : runAll t.act stages given v = (.ok q, v')) : entry q = entry given := by
  induction stages generalizing given v with
  | nil =>
    cases h
    rfl
  | cons s rest ih =>
    obtain ⟨_, _, hact, hrest⟩ := runAll_cons_eq_ok h
    rw [ih (fun s hs => hkept s (List.mem_cons_of_mem _ hs)) hrest, hkept s (List.mem_cons_self ..) _ _ _ _ hact]

theorem checked_runAll {stages : List Stage} {given q : Progress} {v v' : World} (hs : .check ∉ stages)
    (h : Act.runAll t.act stages given v = (.ok q, v')) : q.checked = given.checked := by
  refine entry_runAll (fun q => q.checked) (fun s hmem given q v v' hact => ?_) h
  have hprogress := progress_act hact
  cases s with
  | check => exact absurd hmem hs
  | _ => rw [hprogress]

theorem generated_runAll {stages : List Stage} {given q : Progress} {v v' : World} (hs : .generate ∉ stages)
    (h : Act.runAll t.act stages given v = (.ok q, v')) : q.generated = given.generated := by
  refine entry_runAll (fun q => q.generated) (fun s hmem given q v v' hact => ?_) h
  have hprogress := progress_act hact
  cases s with
  | generate => exact absurd hmem hs
  | _ => rw [hprogress]

open Act in
/-- What the compiler sees: the declarations as they were generated, and a file that refers to them. -/
theorem written_before_check (hp : p ∈ t.passages w) (hs : p.stage = .check) :
    p.before.files.fileAt (t.reference.placeFrom w.files.home) =
        some (Utf8.encode (referenceText t.places.declaration.name)) ∧
      ∃ q ∈ t.passages w, q.stage = .generate ∧ ∃ g,
        generate t.places.docs t.config (some t.version.docUrl) none q.before = (.ok g, q.after) ∧
        p.before.files.fileAt (t.declared w.files.home) = some (Utf8.encode g.text) := by
  obtain ⟨done, left, hsplit, hrun, _⟩ := mem_trail_iff.mp hp
  rw [hs] at hsplit
  obtain ⟨rfl, _⟩ := t.eq_of_check_split hsplit
  -- the run up to the check, stage by stage
  obtain ⟨p₀, w₀, hfetch, hrest⟩ := runAll_append_eq_ok hrun
  obtain ⟨p₁, w₁, hdocument, hrest⟩ := runAll_cons_eq_ok hrest
  obtain ⟨p₂, w₂, hgenerate, hrest⟩ := runAll_cons_eq_ok hrest
  obtain ⟨p₃, w₃, hdeclare, hrest⟩ := runAll_cons_eq_ok hrest
  obtain ⟨p₄, w₄, hreference, hrest⟩ := runAll_cons_eq_ok hrest
  obtain rfl : w₄ = p.before := (Prod.mk.inj hrest).2
  have hhome := home_before hp
  have hhome₃ : w₃.files.home = w.files.home := (home_act hreference).symm.trans hhome
  have hhome₂ : w₂.files.home = w.files.home := (home_act hdeclare).symm.trans hhome₃
  have hseen := act_reference_eq_ok hreference
  have hwritten := act_declare_eq_ok hdeclare
  have hkept := t.fileAt_reference p₃ w₃
  rw [hreference, hhome₃] at hkept
  rw [hhome₃] at hseen
  rw [hhome₂] at hwritten
  refine ⟨hseen, ⟨.generate, p₁, w₁, .ok p₂, w₂⟩, ?_, rfl, _, act_generate_eq_ok hgenerate,
    hkept.trans hwritten⟩
  refine mem_trail_iff.mpr ⟨t.fetching ++ [.document], .declare :: .reference :: .check :: left, ?_, ?_, hgenerate⟩
  · rw [hsplit]
    simp
  · rw [runAll_append_of_ok hfetch]
    exact bind_of_ok hdocument

end Run
end BuildTask
end AmbientDecls
