import AmbientDecls.Proofs.Build.Gating

/-! What a formatter can do to a build. Whatever code it exits with, the build reports declarations that were checked; but if
it does not exit, since it is missing, is refused or takes too long, the build fails after a check that succeeded. -/

namespace AmbientDecls

namespace Act

section Success

variable {w v u : World}

theorem eq_ok_of_isOk {α : Type} {act : Act α} (h : (act w).1.isOk = true) :
    ∃ a, act w = (.ok a, (act w).2) := by
  cases hact : act w with
  | mk result v =>
    rw [hact] at h
    cases result with
    | error f => cases h
    | ok a => exact ⟨a, rfl⟩

theorem exportDocs_of_has {directory : Path} (sources executable extra : String) (timeout : Int)
    (h : w.Has directory) : ∃ log, exportDocs sources directory executable extra timeout w =
      (.ok false, { w with log := log }) := by
  unfold exportDocs
  rw [bind_of_ok (contains_eq_ok h)]
  exact ⟨_, rfl⟩

theorem emission_eq_ok {α : Type} (act : Emit α) (state : EmitState) (w : World) :
    ∃ a v, emission act state w = (.ok a, v) := by
  have hlogged : ∀ (ds : List Diagnostic) (u : World), ∃ u', (ds.forM fun d => log .warn .diagnostics
      (d.kind.word ++ ": " ++ d.message ++ " (" ++ d.subject ++ ")")) u = (.ok (), u') := by
    intro ds
    induction ds with
    | nil => exact fun u => ⟨u, rfl⟩
    | cons d ds ih =>
      intro u
      rw [List.forM_eq_forM, List.forM_cons, bind_of_ok (log_apply ..)]
      exact ih _
  unfold emission
  cases act state with
  | mk a next =>
    obtain ⟨v, hv⟩ := hlogged (next.diagnostics.drop state.diagnostics.length) w
    exact ⟨_, _, bind_of_ok hv⟩

/-- A generation fails only while the records are loaded. -/
theorem generate_of_load {directory : Path} {config : Config} {docUrl : Option String}
    {generatedAt : Option Timestamp} {r : Registry}
    (h : loadRegistry directory config.registry w = (.ok r, v)) :
    ∃ g log, generate directory config docUrl generatedAt w = (.ok g, { w with log := log }) := by
  have hgenerate : ∃ g u, generate directory config docUrl generatedAt w = (.ok g, u) := by
    unfold generate
    rw [bind_of_ok h]
    simp only
    rw [bind_of_ok (get_apply v)]
    obtain ⟨a, u, hu⟩ := emission_eq_ok (Emitter.file ⟨r, _⟩ _) {} v
    exact ⟨_, _, bind_of_ok hu⟩
  obtain ⟨g, u, hu⟩ := hgenerate
  -- a generation writes nothing, so the world that it ends in differs by its log only
  obtain ⟨log, hworld⟩ := world_of_still (edits_generate directory config docUrl generatedAt) w
  rw [hu] at hworld
  obtain rfl : u = _ := hworld
  exact ⟨g, log, hu⟩

theorem writeDeclarations_of_write {text : String} {file : Path}
    (hensure : ensure file.parent w = (.ok (), v)) (hwrite : write file (Utf8.encode text) v = (.ok (), u)) :
    ∃ log, writeDeclarations text file false w = (.ok file, { u with log := log }) := by
  unfold writeDeclarations
  simp only [Bool.false_eq_true, if_false]
  rw [bind_of_ok hensure]
  exact ⟨_, bind_of_ok hwrite⟩

end Success
end Act

namespace BuildTask

open Act

variable {t : BuildTask} {w : World} {p : Passage Stage Progress} {q : Progress}

theorem act_format_apply (q : Progress) (v : World) : (t.act .format q v).1 =
    (runTool "tsfmt" "format" t.formatArgs t.tools.timeout v).1.map fun result =>
      { q with formatted := result.ok } := by
  simp only [act]
  rw [bind_apply]
  cases runTool "tsfmt" "format" t.formatArgs t.tools.timeout v with
  | mk ended u =>
    cases ended with
    | error f => rfl
    | ok result =>
      simp only
      split <;> rfl

/-- After a check the formatter alone decides how a build ends. -/
theorem build_of_check (hp : p ∈ t.passages w) (hs : p.stage = .check) (hq : p.outcome = .ok q)
    (hformat : t.tools.formatOutput = true) {word : String} {rest : List String}
    (hargs : t.formatArgs = word :: rest) : q.checked = true ∧
      (t.build w).1 = (toolOutcome "tsfmt" "format" word t.tools.timeout
        (p.after.start t.formatArgs t.tools.timeout).1).map fun result =>
          t.report { q with formatted := result.ok } := by
  have hact : t.act .check p.given p.before = (.ok q, p.after) := by
    rw [← hs, passed hp, hq]
  obtain ⟨_, rfl⟩ := act_check_eq_ok hact
  refine ⟨rfl, ?_⟩
  obtain ⟨done, left, hsplit, hrun, _⟩ := mem_trail_iff.mp hp
  rw [hs] at hsplit
  -- the formatter is the one stage that is left
  obtain ⟨-, rfl⟩ := t.eq_of_check_split hsplit
  rw [if_pos hformat] at hsplit
  have hended := (runTool_apply "tsfmt" "format" word rest t.tools.timeout p.after).1
  rw [← hargs] at hended
  rw [build_apply, hsplit, runAll_append_of_ok hrun, runAll_cons, hact]
  simp only
  rw [runAll_singleton, act_format_apply, hended]
  cases toolOutcome "tsfmt" "format" word t.tools.timeout _ <;> rfl

/-- A build that passes its check is reported exactly if the formatter exits: as checked, and as formatted if the code is
zero. Otherwise the build fails as the formatter does. -/
theorem reported_iff_formatter_exited (hp : p ∈ t.passages w) (hs : p.stage = .check)
    (hok : ∃ q, p.outcome = .ok q) (hformat : t.tools.formatOutput = true) :
    let finish := (p.after.start t.formatArgs t.tools.timeout).1
    ((∃ r, (t.build w).1 = .ok r) ↔ finish.hasExited = true) ∧
    (∀ r, (t.build w).1 = .ok r → r.checked = true ∧
      (r.formatted = true ↔ ∃ output errors, finish = .exited 0 output errors)) ∧
    ∀ f, (t.build w).1 = .error f → ∃ word rest, t.formatArgs = word :: rest ∧
      toolOutcome "tsfmt" "format" word t.tools.timeout finish = .error f := by
  intro finish
  obtain ⟨q, hq⟩ := hok
  have hne : t.formatArgs ≠ [] := by simp [formatArgs]
  obtain ⟨word, rest, hargs⟩ := List.exists_cons_of_ne_nil hne
  obtain ⟨hchecked, hbuild⟩ := build_of_check hp hs hq hformat hargs
  change (t.build w).1 = (toolOutcome "tsfmt" "format" word t.tools.timeout finish).map _ at hbuild
  rw [hbuild]
  cases finish with
  | exited code output errors =>
    refine ⟨iff_of_true ⟨_, rfl⟩ rfl, fun r hr => ?_, fun f hf => ?_⟩
    · cases hr
      refine ⟨hchecked, ?_⟩
      simp [report]
    · cases hf
  | missing | denied | timedOut =>
    refine ⟨iff_of_false ?_ Bool.false_ne_true, ?_, fun f hf => ⟨word, rest, hargs, ?_⟩⟩
    · rintro ⟨r, hr⟩
      cases hr
    · intro r hr
      cases hr
    · cases hf
      rfl

section Example

/-! A build whose documentation is there and has no classes. The compiler accepts the declarations. -/

/-- A host on which the formatter ends as given, with what a build has written so far. -/
def documentedHost (finish : ToolEnd) (written : List (Place × Node)) (log : List LogRecord) : World where
  files :=
    ⟨written ++ [(["build"], .directory), (["build", "v"], .directory), (["build", "v", "e.docs"], .directory),
      (["build", "v", "e.docs", "index.html"], .file [])], []⟩
  tools := [⟨[], .exited 0 "" ""⟩, ⟨[], finish⟩]
  log := log
  clock := ⟨2024, 1, 2, 3, 4, 5, 0, none⟩

theorem exampleTask_places : exampleTask.places = ⟨⟨0, ["build", "v", "v.d.ts"]⟩, ⟨0, ["build", "v"]⟩,
    ⟨0, ["build", "v", "e", "src"]⟩, ⟨0, ["build", "v", "e.docs"]⟩⟩ := by decide +kernel

variable (finish : ToolEnd) (log : List LogRecord)

theorem document_documentedHost : ∃ log', exampleTask.act .document {} (documentedHost finish [] log) =
    (.ok {}, documentedHost finish [] log') := by
  have hthere : (documentedHost finish [] log).Has ⟨0, ["build", "v", "e.docs"]⟩ := by
    unfold World.Has
    cbv
  simp only [act, exampleTask_places]
  obtain ⟨log', hlog⟩ := exportDocs_of_has _ _ _ _ hthere
  exact ⟨log', bind_of_ok hlog⟩

theorem generate_documentedHost : ∃ p log', exampleTask.act .generate {} (documentedHost finish [] log) =
    (.ok p, documentedHost finish [] log') := by
  have hload : (loadRegistry ⟨0, ["build", "v", "e.docs"]⟩ {} (documentedHost finish [] log)).1.isOk = true := by
    cbv
  obtain ⟨r, hr⟩ := eq_ok_of_isOk hload
  change loadRegistry _ exampleTask.config.registry _ = _ at hr
  obtain ⟨g, log', hg⟩ := generate_of_load hr
  simp only [act, exampleTask_places]
  exact ⟨_, log', bind_of_ok hg⟩

theorem declare_documentedHost (p : Progress) : ∃ bytes log',
    exampleTask.act .declare p (documentedHost finish [] log) =
      (.ok p, documentedHost finish [(["build", "v", "v.d.ts"], .file bytes)] log') := by
  have hensure : ∀ log, ensure (Path.parent ⟨0, ["build", "v", "v.d.ts"]⟩) (documentedHost finish [] log) =
      (.ok (), documentedHost finish [] log) := by
    intro log
    cbv
  have hwrite : ∀ bytes log, write ⟨0, ["build", "v", "v.d.ts"]⟩ bytes (documentedHost finish [] log) =
      (.ok (), documentedHost finish [(["build", "v", "v.d.ts"], .file bytes)] log) := by
    intro bytes log
    cbv
  simp only [act, exampleTask_places]
  rw [bind_of_ok (log_apply ..)]
  obtain ⟨log', hlog⟩ := writeDeclarations_of_write (hensure (log ++ [_])) (hwrite (Utf8.encode p.generated.text) _)
  exact ⟨_, log', bind_of_ok hlog⟩

theorem reference_documentedHost (p : Progress) (bytes : Bytes) : ∃ written,
    exampleTask.act .reference p (documentedHost finish [(["build", "v", "v.d.ts"], .file bytes)] log) =
      (.ok p, documentedHost finish written log) := by
  have hwrite : ∀ bytes', write ⟨0, ["build", "v", "test.ts"]⟩ bytes'
      (documentedHost finish [(["build", "v", "v.d.ts"], .file bytes)] log) = (.ok (), documentedHost finish
        [(["build", "v", "test.ts"], .file bytes'), (["build", "v", "v.d.ts"], .file bytes)] log) := by
    intro bytes'
    cbv
  have hfile : exampleTask.places.declaration.parent.child referenceName = ⟨0, ["build", "v", "test.ts"]⟩ := by
    decide +kernel
  simp only [act]
  unfold writeReference writeText
  rw [hfile]
  exact ⟨_, bind_of_ok (bind_of_ok (hwrite _))⟩

theorem check_documentedHost (p : Progress) (written : List (Place × Node)) : ∃ v,
    exampleTask.act .check p (documentedHost finish written log) = (.ok { p with checked := true }, v) ∧
      (v.start exampleTask.formatArgs exampleTask.tools.timeout).1 = finish := by
  simp only [act]
  exact ⟨_, rfl, rfl⟩

theorem exists_check_documentedHost : ∃ p ∈ exampleTask.passages (documentedHost finish [] []), p.stage = .check ∧
    (∃ q, p.outcome = .ok q) ∧ (p.after.start exampleTask.formatArgs exampleTask.tools.timeout).1 = finish := by
  obtain ⟨log₁, hdocument⟩ := document_documentedHost finish []
  obtain ⟨q, log₂, hgenerate⟩ := generate_documentedHost finish log₁
  obtain ⟨bytes, log₃, hdeclare⟩ := declare_documentedHost finish log₂ q
  obtain ⟨written, hreference⟩ := reference_documentedHost finish log₃ q bytes
  obtain ⟨v, hcheck, hfinish⟩ := check_documentedHost finish log₃ q written
  refine ⟨⟨.check, q, _, .ok { q with checked := true }, v⟩, mem_trail_iff.mpr
    ⟨[.document, .generate, .declare, .reference], [.format], rfl, ?_, hcheck⟩, rfl, ⟨_, rfl⟩, hfinish⟩
  exact (bind_of_ok hdocument).trans ((bind_of_ok hgenerate).trans
    ((bind_of_ok hdeclare).trans (bind_of_ok hreference)))

theorem reported_iff_formatter_exited_failed :
    let w := documentedHost (.exited 1 "" "unknown option") [] []
    (∃ p ∈ exampleTask.passages w, p.stage = .check ∧ ∃ q, p.outcome = .ok q) ∧
      exampleTask.tools.formatOutput = true ∧
      ∃ r, (exampleTask.build w).1 = .ok r ∧ r.checked = true ∧ r.formatted = false := by
  intro w
  obtain ⟨p, hp, hs, hok, hfinish⟩ := exists_check_documentedHost (.exited 1 "" "unknown option")
  obtain ⟨hreported, hshown, _⟩ := reported_iff_formatter_exited hp hs hok rfl
  rw [hfinish] at hreported hshown
  obtain ⟨r, hr⟩ := hreported.mpr rfl
  obtain ⟨hchecked, hformatted⟩ := hshown r hr
  refine ⟨⟨p, hp, hs, hok⟩, rfl, r, hr, hchecked, ?_⟩
  rw [← Bool.not_eq_true, hformatted]
  rintro ⟨output, errors, heq⟩
  cases heq

/-- If the formatter is not there or takes too long, a build fails although its check succeeded. -/
theorem formatter_fails_build :
    (∃ p ∈ exampleTask.passages (documentedHost .missing [] []), p.stage = .check ∧ ∃ q, p.outcome = .ok q) ∧
    (exampleTask.build (documentedHost .missing [] [])).1 =
      .error (.tool ⟨"tsfmt", "format", "executable not found: npx", none, true⟩) ∧
    (∃ p ∈ exampleTask.passages (documentedHost .timedOut [] []), p.stage = .check ∧ ∃ q, p.outcome = .ok q) ∧
    (exampleTask.build (documentedHost .timedOut [] [])).1 =
      .error (.tool ⟨"tsfmt", "format", "timed out after 600s", none, true⟩) := by
  obtain ⟨p, hp, hs, ⟨q, hq⟩, hfinish⟩ := exists_check_documentedHost .missing
  obtain ⟨_, hbuild⟩ := build_of_check hp hs hq rfl rfl
  obtain ⟨p', hp', hs', ⟨q', hq'⟩, hfinish'⟩ := exists_check_documentedHost .timedOut
  obtain ⟨_, hbuild'⟩ := build_of_check hp' hs' hq' rfl rfl
  rw [hfinish] at hbuild
  rw [hfinish'] at hbuild'
  exact ⟨⟨p, hp, hs, q, hq⟩, hbuild, ⟨p', hp', hs', q', hq'⟩, hbuild'⟩

end Example

end BuildTask
end AmbientDecls
