import AmbientDecls.Proofs.Build.Effects
import AmbientDecls.Proofs.Emit.History

/-! The stages of a build are gated. They come in one order, each begins only when those before it succeeded, and a stage
has no effect but its own: one makes a request, three start a tool, and one writes the declarations. -/

namespace AmbientDecls
namespace BuildTask

variable {t : BuildTask} {w : World} {p : Passage Stage Progress}

theorem build_apply (t : BuildTask) (w : World) : t.build w =
    ((Act.runAll t.act t.stages {} w).1.map t.report, (Act.runAll t.act t.stages {} w).2) := by
  rw [build_eq, Act.bind_apply]
  cases Act.runAll t.act t.stages {} w with
  | mk outcome v => cases outcome <;> rfl

theorem home_build (t : BuildTask) (w : World) : (t.build w).2.files.home = w.files.home := by
  rw [build_apply]
  exact home_runAll t.stages {} w

/-- A build takes no time. -/
theorem clock_build (t : BuildTask) (w : World) : (t.build w).2.clock = w.clock := by
  rw [build_apply]
  exact clock_runAll t.stages {} w

theorem passages_prefix (t : BuildTask) (w : World) :
    ((t.passages w).map fun p => p.stage) <+: t.stages := stages_trail t.stages _ w

theorem stage_mem (hp : p ∈ t.passages w) : p.stage ∈ t.stages :=
  (t.passages_prefix w).subset (List.mem_map_of_mem hp)

/-- Entries made by different stages in their order: there is one at most if only one stage makes any. -/
theorem entries_of_one {α : Type} {made : List (Stage × α)} {s : Stage}
    (hstages : (made.map Prod.fst).Sublist t.stages) (hs : ∀ x ∈ made, x.1 = s) :
    made = [] ∨ ∃ a, made = [(s, a)] := by
  have hpairs := t.pairwise_stages.sublist hstages
  match made with
  | [] => exact Or.inl rfl
  | [x] =>
    obtain rfl := hs x (List.mem_singleton_self x)
    exact Or.inr ⟨x.2, rfl⟩
  | x :: y :: rest =>
    have hlt : x.1.rank < y.1.rank := List.rel_of_pairwise_cons hpairs (List.mem_cons_self ..)
    rw [hs x (List.mem_cons_self ..), hs y (List.mem_cons_of_mem _ (List.mem_cons_self ..))] at hlt
    exact absurd hlt (Nat.lt_irrefl _)

/-- A build of a task in which each stage has to wait for the ones before it. -/
structure Gated (t : BuildTask) (w : World) : Prop where
  /-- The stages that are passed are the first ones of those that are asked for, and these have one order. -/
  order : ((t.passages w).map fun p => p.stage) <+: t.stages ∧ t.stages.Pairwise fun a b => a.rank < b.rank
  passed : ∀ p ∈ t.passages w, t.act p.stage p.given p.before = (p.outcome, p.after)
  /-- Every stage but the first begins where the one before it succeeded. -/
  chain : (t.passages w).IsChain fun p q => p.outcome = .ok q.given ∧ q.before = p.after
  begins : ∃ p, (t.passages w).head? = some p ∧ p.given = {} ∧ p.before = w
  /-- The last stage that is passed decides how the build ends. -/
  ends : ∃ p, (t.passages w).getLast? = some p ∧ t.build w = (p.outcome.map t.report, p.after)
  reported : ∀ r, (t.build w).1 = .ok r → ((t.passages w).map fun p => p.stage) = t.stages ∧
    ∀ p ∈ t.passages w, ∃ q, p.outcome = .ok q
  /-- Requests are made in the order of the stages, by the download at most. -/
  requests : ∃ made : List (Stage × Request),
    (t.build w).2.requests = w.requests ++ made.map Prod.snd ∧
    (made.map Prod.fst).Sublist ((t.passages w).map fun p => p.stage) ∧
    ∀ x ∈ made, t.request? x.1 = some x.2
  /-- Tools are started in the order of the stages, at most one by each. -/
  calls : ∃ made : List (Stage × ToolCall), (t.build w).2.calls = w.calls ++ made.map Prod.snd ∧
    (made.map Prod.fst).Sublist ((t.passages w).map fun p => p.stage) ∧
    ∀ x ∈ made, t.call? x.1 = some x.2
  fetch_skipped : t.skipFetch = true → (t.build w).2.requests = w.requests ∧
    ∀ p ∈ t.passages w, p.stage ≠ .download ∧ p.stage ≠ .unpack
  check_skipped : t.skipCheck = true →
    ((t.build w).2.calls = w.calls ∨
      ∃ c, t.call? .document = some c ∧ (t.build w).2.calls = w.calls ++ [c]) ∧
    ∀ p ∈ t.passages w, p.stage ≠ .check ∧ p.stage ≠ .format
  /-- One stage writes the declarations, and the formatter may. -/
  kept : ∀ p ∈ t.passages w, p.stage ≠ .declare → p.stage ≠ .format →
    p.after.files.fileAt (t.declared w.files.home) = p.before.files.fileAt (t.declared w.files.home)
  /-- A failure up to the generation leaves the declarations that were there before the build. -/
  unchanged : ∀ p ∈ t.passages w, p.stage.rank ≤ Stage.generate.rank → ∀ f, p.outcome = .error f →
    (t.build w).2.files.fileAt (t.declared w.files.home) = w.files.fileAt (t.declared w.files.home)
  /-- Declarations are reported as checked if the compiler accepted them as they were generated. -/
  checked : ∀ r, (t.build w).1 = .ok r → r.checked = true → ∃ p ∈ t.passages w, p.stage = .check ∧
    (∃ output errors, (p.before.start t.checkArgs t.tools.timeout).1 =
      .exited 0 output errors) ∧
    p.before.files.fileAt (t.reference.placeFrom w.files.home) =
      some (Utf8.encode (Act.referenceText t.places.declaration.name)) ∧
    ∃ q ∈ t.passages w, q.stage = .generate ∧ ∃ g,
      Act.generate t.places.docs t.config (some t.version.docUrl) none q.before = (.ok g, q.after) ∧
      p.before.files.fileAt (t.declared w.files.home) = some (Utf8.encode g.text)

theorem made_requests : ∃ made : List (Stage × Request),
    (t.build w).2.requests = w.requests ++ made.map Prod.snd ∧
    (made.map Prod.fst).Sublist ((t.passages w).map fun p => p.stage) ∧
    ∀ x ∈ made, t.request? x.1 = some x.2 := by
  rw [build_apply]
  refine exists_made (fun v => v.requests) (fun s r => t.request? s = some r) fun p hp => ?_
  have hframe := (t.effects_frame p.stage p.given p.before).2.2.2
  rwa [passed hp] at hframe

theorem made_calls : ∃ made : List (Stage × ToolCall),
    (t.build w).2.calls = w.calls ++ made.map Prod.snd ∧
    (made.map Prod.fst).Sublist ((t.passages w).map fun p => p.stage) ∧
    ∀ x ∈ made, t.call? x.1 = some x.2 := by
  rw [build_apply]
  refine exists_made (fun v => v.calls) (fun s c => t.call? s = some c) fun p hp => ?_
  have hframe := (t.effects_frame p.stage p.given p.before).2.2.1
  rwa [passed hp] at hframe

theorem runAll_of_report {r : BuildReport} (h : (t.build w).1 = .ok r) :
    ∃ q v, Act.runAll t.act t.stages {} w = (.ok q, v) ∧ t.report q = r := by
  rw [build_apply] at h
  cases hrun : Act.runAll t.act t.stages {} w with
  | mk outcome v =>
    rw [hrun] at h
    cases outcome with
    | error f => cases h
    | ok q => exact ⟨q, v, rfl, Except.ok.inj h⟩

theorem requests_of_skipFetch (hskip : t.skipFetch = true) : (t.build w).2.requests = w.requests := by
  obtain ⟨made, hrequests, hstages, hmade⟩ := made_requests (t := t) (w := w)
  have hnone : made = [] := by
    refine List.eq_nil_iff_forall_not_mem.mpr fun x hx => ?_
    have hmem : x.1 ∈ t.stages :=
      (hstages.trans (t.passages_prefix w).sublist).subset (List.mem_map_of_mem hx)
    have hrequest := hmade x hx
    cases hs : x.1 with
    | download =>
      rw [hs, mem_stages_iff, hskip] at hmem
      cases hmem
    | _ =>
      rw [hs] at hrequest
      cases hrequest
  rw [hrequests, hnone]
  exact List.append_nil _

theorem calls_of_skipCheck (hskip : t.skipCheck = true) : (t.build w).2.calls = w.calls ∨
    ∃ c, t.call? .document = some c ∧ (t.build w).2.calls = w.calls ++ [c] := by
  obtain ⟨made, hcalls, hstages, hmade⟩ := made_calls (t := t) (w := w)
  have hsub := hstages.trans (t.passages_prefix w).sublist
  have hdocument : ∀ x ∈ made, x.1 = .document := by
    intro x hx
    have hmem : x.1 ∈ t.stages := hsub.subset (List.mem_map_of_mem hx)
    have hcall := hmade x hx
    cases hs : x.1 with
    | document => rfl
    | check =>
      rw [hs, mem_stages_iff, hskip] at hmem
      cases hmem
    | format =>
      rw [hs, mem_stages_iff, hskip] at hmem
      cases hmem.1
    | _ =>
      rw [hs] at hcall
      cases hcall
  rcases entries_of_one hsub hdocument with rfl | ⟨c, rfl⟩
  · exact Or.inl (hcalls.trans (List.append_nil _))
  · exact Or.inr ⟨c, hmade _ (List.mem_singleton_self _), hcalls⟩

/-- Up to the generation no stage writes the declarations, and one that fails is the last. -/
theorem unchanged_of_error (hfiles : w.files.WellFormed)
    (hoff : ∀ p ∈ t.passages w, t.KeepsOff (t.declared w.files.home) p) {p : Passage Stage Progress}
    (hp : p ∈ t.passages w) (hrank : p.stage.rank ≤ Stage.generate.rank) {f : Failure}
    (hf : p.outcome = .error f) : (t.build w).2.files.fileAt (t.declared w.files.home) =
      w.files.fileAt (t.declared w.files.home) := by
  have hkept : ∀ q ∈ t.passages w, q.stage.rank ≤ Stage.generate.rank →
      q.after.files.fileAt (t.declared w.files.home) =
        q.before.files.fileAt (t.declared w.files.home) := by
    intro q hq hrank
    refine fileAt_passed hfiles hoff hq ?_ ?_
    · rintro hs
      exact absurd (hs ▸ hrank) (by decide)
    · rintro hs
      exact absurd (hs ▸ hrank) (by decide)
  have hend : (t.build w).2 = p.after := by
    rw [build_apply, runAll_of_error hp hf]
  rw [hend, hkept p hp hrank]
  let I (v : World) : Prop :=
    v.files.fileAt (t.declared w.files.home) = w.files.fileAt (t.declared w.files.home)
  have hbefore : I p.before := inv_before hp rfl fun q hq hlt hI =>
    (hkept q hq (Nat.le_of_lt (Nat.lt_of_lt_of_le hlt hrank))).trans hI
  exact hbefore

/-- A report of a check comes from a check. -/
theorem exists_check {r : BuildReport} (hr : (t.build w).1 = .ok r) (hchecked : r.checked = true) :
    ∃ p ∈ t.passages w, p.stage = .check ∧ ∃ q, p.outcome = .ok q := by
  obtain ⟨q, v, hrun, rfl⟩ := runAll_of_report hr
  obtain ⟨hstages, hall⟩ := trail_of_ok hrun
  have hmem : .check ∈ t.stages := by
    -- no other stage sets the flag, which is false at first
    by_contra hnone
    have hsame : q.checked = false := checked_runAll hnone hrun
    rw [report, hsame] at hchecked
    cases hchecked
  rw [← hstages] at hmem
  obtain ⟨p, hp, hs⟩ := List.mem_map.mp hmem
  exact ⟨p, hp, hs, hall p hp⟩

/-- Whatever is there before and whatever downloads and tools come to, a build is gated. -/
theorem build_gated (hfiles : w.files.WellFormed)
    (hoff : ∀ p ∈ t.passages w, t.KeepsOff (t.declared w.files.home) p) : t.Gated w where
  order := ⟨t.passages_prefix w, t.pairwise_stages⟩
  passed _ hp := passed hp
  chain := isChain_trail t.stages _ w
  begins := head?_trail t.stages_ne_nil
  ends := by
    obtain ⟨p, hlast, hrun⟩ := getLast?_trail (b := ({} : Progress)) (w := w) t.stages_ne_nil
    exact ⟨p, hlast, by rw [build_apply, hrun]⟩
  reported r hr := by
    obtain ⟨q, v, hrun, _⟩ := runAll_of_report hr
    exact trail_of_ok hrun
  requests := made_requests
  calls := made_calls
  fetch_skipped hskip := by
    refine ⟨requests_of_skipFetch hskip, fun p hp => ⟨fun hs => ?_, fun hs => ?_⟩⟩
    all_goals
      have hmem := stage_mem hp
      rw [hs, mem_stages_iff, hskip] at hmem
      cases hmem
  check_skipped hskip := by
    refine ⟨calls_of_skipCheck hskip, fun p hp => ⟨fun hs => ?_, fun hs => ?_⟩⟩
    · have hmem := stage_mem hp
      rw [hs, mem_stages_iff, hskip] at hmem
      cases hmem
    · have hmem := stage_mem hp
      rw [hs, mem_stages_iff, hskip] at hmem
      cases hmem.1
  kept p hp := fileAt_passed hfiles hoff hp
  unchanged p hp hrank f hf := unchanged_of_error hfiles hoff hp hrank hf
  checked r hr hchecked := by
    obtain ⟨p, hp, hs, q, hq⟩ := exists_check hr hchecked
    have hact : t.act .check p.given p.before = (.ok q, p.after) := by
      rw [← hs, passed hp, hq]
    exact ⟨p, hp, hs, (act_check_eq_ok hact).1, written_before_check hp hs⟩

/-- It is enough that no tool at all writes to the place. -/
theorem keepsOff_of_tools {place : Place}
    (hfetch : ∀ p ∈ t.passages w, p.stage.rank < 2 → t.KeepsOff place p)
    (htools : ∀ run ∈ w.tools, ∀ e ∈ run.writes, w.files.home ++ e.1.parts ≠ place) :
    ∀ p ∈ t.passages w, t.KeepsOff place p := by
  intro p hp
  have hleft : p.before.tools <:+ w.tools := by
    refine inv_before hp (I := fun v => v.tools <:+ w.tools) (List.suffix_refl _) fun q hq _ hI => ?_
    have hframe := (t.effects_frame q.stage q.given q.before).2.1
    rw [passed hq] at hframe
    exact hframe.trans hI
  have hrun : ∀ run ∈ p.before.tools.head?, ∀ e ∈ run.writes, p.before.files.home ++ e.1.parts ≠ place := by
    intro run hhead
    rw [home_before hp]
    exact htools run (hleft.subset (List.mem_of_mem_head? hhead))
  have hearly := hfetch p hp
  unfold KeepsOff at hearly ⊢
  cases hs : p.stage with
  | download | unpack =>
    rw [hs] at hearly
    exact hearly (by decide)
  | document | check => exact hrun
  | generate | declare | reference | format => trivial

/-! A build of a version whose sources are there: the export writes one class, and all tools succeed. -/

def exampleTask : BuildTask :=
  ⟨{ name := "v", folder := "e", url := "http://h/e.zip" }, {}, true, false⟩

def exportingHost : World where
  files := ⟨[], []⟩
  tools := [⟨[(⟨0, ["build", "v", "e.docs", "Ext.Date.json"]⟩, .file (Utf8.encode exampleText))],
    .exited 0 "" ""⟩]
  laterTools := .exited 0 "" ""
  clock := ⟨2024, 1, 2, 3, 4, 5, 0, none⟩

theorem build_gated_exampleTask : (exportingHost.files.WellFormed ∧
      ∀ p ∈ exampleTask.passages exportingHost,
        exampleTask.KeepsOff (exampleTask.declared exportingHost.files.home) p) ∧
    exampleTask.Gated exportingHost := by
  have hfiles : exportingHost.files.WellFormed := by
    refine ⟨rfl, fun {place n} hplace => ?_⟩
    cases place with
    | nil => rfl
    | cons name above => cases hplace
  have hoff : ∀ p ∈ exampleTask.passages exportingHost,
      exampleTask.KeepsOff (exampleTask.declared exportingHost.files.home) p := by
    refine keepsOff_of_tools (fun p hp hrank => ?_) ?_
    · have hstages : ∀ s ∈ exampleTask.stages, ¬ s.rank < 2 := by decide
      exact absurd hrank (hstages p.stage (stage_mem hp))
    · have hdeclared : exampleTask.declared exportingHost.files.home = ["build", "v", "v.d.ts"] := by
        decide +kernel
      rw [hdeclared]
      decide
  exact ⟨⟨hfiles, hoff⟩, build_gated hfiles hoff⟩

end BuildTask
end AmbientDecls
