import AmbientDecls.Build.Version
import Mathlib.Data.List.Basic
import Mathlib.Data.List.Chain

/-! A build as a run of stages. Each stage is given what the stages before it came to, and the first one that fails ends
the run. What holds of every stage that was passed holds of the run. -/

namespace AmbientDecls

/-- A stage that a run came to: what it was given, and how it ended. -/
structure Passage (σ β : Type) where
  stage : σ
  given : β
  before : World
  outcome : Except Failure β
  after : World

section Trail

variable {σ β : Type} (step : σ → β → Act β)

namespace Act

/-- Runs stages one after the other. -/
def runAll (stages : List σ) (b : β) : Act β := stages.foldlM (fun b s => step s b) b

variable {step} {s : σ} {b c : β} {w w' : World}

theorem runAll_nil_eq (b : β) : runAll step [] b = pure b := rfl

theorem runAll_cons_bind (s : σ) (rest : List σ) (b : β) :
    runAll step (s :: rest) b = step s b >>= runAll step rest := List.foldlM_cons

theorem runAll_cons (s : σ) (rest : List σ) (b : β) (w : World) :
    runAll step (s :: rest) b w = match step s b w with
      | (.ok b', v) => runAll step rest b' v
      | (.error f, v) => (.error f, v) := by
  rw [runAll, List.foldlM_cons, bind_apply]
  rfl

theorem runAll_singleton (s : σ) (b : β) (w : World) : runAll step [s] b w = step s b w := by
  rw [runAll_cons]
  cases step s b w with
  | mk outcome v => cases outcome <;> rfl

theorem runAll_append (done left : List σ) (b : β) (w : World) :
    runAll step (done ++ left) b w = match runAll step done b w with
      | (.ok b', v) => runAll step left b' v
      | (.error f, v) => (.error f, v) := by
  rw [runAll, List.foldlM_append, bind_apply]
  rfl

theorem runAll_append_of_ok {done left : List σ} (h : runAll step done b w = (.ok c, w')) :
    runAll step (done ++ left) b w = runAll step left c w' := by
  rw [runAll_append, h]

theorem runAll_cons_eq_ok {rest : List σ} (h : runAll step (s :: rest) b w = (.ok c, w')) :
    ∃ b' v, step s b w = (.ok b', v) ∧ runAll step rest b' v = (.ok c, w') := bind_eq_ok h

theorem runAll_append_eq_ok {done left : List σ}
    (h : runAll step (done ++ left) b w = (.ok c, w')) :
    ∃ b' v, runAll step done b w = (.ok b', v) ∧ runAll step left b' v = (.ok c, w') := by
  rw [runAll, List.foldlM_append] at h
  exact bind_eq_ok h

end Act

open Act

/-- The stages that a run comes to, up to the first that fails. -/
def trail : List σ → β → World → List (Passage σ β)
  | [], _, _ => []
  | s :: rest, b, w =>
    ⟨s, b, w, (step s b w).1, (step s b w).2⟩ :: match (step s b w).1 with
      | .ok b' => trail rest b' (step s b w).2
      | .error _ => []

variable {step} {stages : List σ} {b : β} {w : World} {p : Passage σ β}

theorem trail_cons_of_ok {s : σ} {rest : List σ} {b' : β} {v : World} (h : step s b w = (.ok b', v)) :
    trail step (s :: rest) b w = ⟨s, b, w, .ok b', v⟩ :: trail step rest b' v := by
  rw [trail, h]

theorem trail_cons_of_error {s : σ} {rest : List σ} {f : Failure} {v : World}
    (h : step s b w = (.error f, v)) :
    trail step (s :: rest) b w = [⟨s, b, w, .error f, v⟩] := by
  rw [trail, h]

/-- A run comes to a stage if all stages before it succeed. -/
theorem mem_trail_iff : p ∈ trail step stages b w ↔ ∃ done left, stages = done ++ p.stage :: left ∧
    runAll step done b w = (.ok p.given, p.before) ∧
      step p.stage p.given p.before = (p.outcome, p.after) := by
  induction stages generalizing b w with
  | nil => simp [trail]
  | cons s rest ih =>
    rw [trail, List.mem_cons]
    constructor
    · rintro (rfl | hmem)
      · exact ⟨[], rest, rfl, rfl, rfl⟩
      · cases hstep : step s b w with
        | mk outcome v =>
          rw [hstep] at hmem
          cases outcome with
          | error f => exact absurd hmem List.not_mem_nil
          | ok b' =>
            obtain ⟨done, left, hsplit, hrun, hpassed⟩ := ih.mp hmem
            refine ⟨s :: done, left, by rw [hsplit, List.cons_append], ?_, hpassed⟩
            rw [runAll_cons, hstep]
            exact hrun
    · rintro ⟨done, left, hsplit, hrun, hpassed⟩
      -- either it is the first stage, or the first one succeeded and is among those before it
      cases done with
      | nil =>
        obtain ⟨rfl, rfl⟩ := List.cons.inj hsplit
        obtain ⟨hgiven, hbefore⟩ := Prod.mk.inj hrun
        obtain rfl := Except.ok.inj hgiven
        left
        rw [← hbefore] at hpassed
        rw [hpassed, hbefore]
      | cons d done =>
        obtain ⟨rfl, hrest⟩ := List.cons.inj hsplit
        obtain ⟨b', v, hstep, hdone⟩ := runAll_cons_eq_ok hrun
        right
        rw [hstep]
        exact ih.mpr ⟨done, left, hrest, hdone, hpassed⟩

theorem stages_trail (stages : List σ) (b : β) (w : World) :
    ((trail step stages b w).map fun p => p.stage) <+: stages := by
  induction stages generalizing b w with
  | nil => exact List.nil_prefix
  | cons s rest ih =>
    cases hstep : step s b w with
    | mk outcome v =>
      cases outcome with
      | error f =>
        rw [trail_cons_of_error hstep]
        exact ⟨rest, rfl⟩
      | ok b' =>
        rw [trail_cons_of_ok hstep, List.map_cons]
        exact (List.prefix_cons_inj s).mpr (ih b' v)

/-- If a run succeeds, all stages do. -/
theorem trail_of_ok {c : β} {w' : World} (h : runAll step stages b w = (.ok c, w')) :
    ((trail step stages b w).map fun p => p.stage) = stages ∧
      ∀ p ∈ trail step stages b w, ∃ c, p.outcome = .ok c := by
  induction stages generalizing b w with
  | nil => exact ⟨rfl, fun p hp => absurd hp List.not_mem_nil⟩
  | cons s rest ih =>
    obtain ⟨b', v, hstep, hrest⟩ := runAll_cons_eq_ok h
    obtain ⟨hstages, hall⟩ := ih hrest
    rw [trail_cons_of_ok hstep]
    refine ⟨congrArg (s :: ·) hstages, fun p hp => ?_⟩
    rcases List.mem_cons.mp hp with rfl | hp
    · exact ⟨b', rfl⟩
    · exact hall p hp

theorem head?_trail (h : stages ≠ []) :
    ∃ p, (trail step stages b w).head? = some p ∧ p.given = b ∧ p.before = w := by
  cases stages with
  | nil => exact absurd rfl h
  | cons s rest => exact ⟨_, rfl, rfl, rfl⟩

/-- A run ends as the last stage that it comes to. -/
theorem getLast?_trail (h : stages ≠ []) : ∃ p, (trail step stages b w).getLast? = some p ∧
    runAll step stages b w = (p.outcome, p.after) := by
  induction stages generalizing b w with
  | nil => exact absurd rfl h
  | cons s rest ih =>
    rw [runAll_cons]
    cases hstep : step s b w with
    | mk outcome v =>
      cases outcome with
      | error f => exact ⟨_, by rw [trail_cons_of_error hstep]; rfl, rfl⟩
      | ok b' =>
        rw [trail_cons_of_ok hstep, List.getLast?_cons]
        -- the last stage of a single one is that one
        by_cases hrest : rest = []
        · subst hrest
          exact ⟨_, rfl, rfl⟩
        · obtain ⟨p, hlast, hp⟩ := ih (b := b') (w := v) hrest
          exact ⟨p, by rw [hlast]; rfl, hp⟩

/-- Every stage begins with what the one before it came to. -/
theorem isChain_trail (stages : List σ) (b : β) (w : World) :
    (trail step stages b w).IsChain fun p q => p.outcome = .ok q.given ∧ q.before = p.after := by
  induction stages generalizing b w with
  | nil => exact .nil
  | cons s rest ih =>
    cases hstep : step s b w with
    | mk outcome v =>
      cases outcome with
      | error f =>
        rw [trail_cons_of_error hstep]
        exact .singleton _
      | ok b' =>
        rw [trail_cons_of_ok hstep]
        have hrest := ih b' v
        cases rest with
        | nil => exact .singleton _
        | cons s' rest => exact .cons_cons ⟨rfl, rfl⟩ hrest

theorem trail_append_of_mem {done left : List σ} (h : p ∈ trail step done b w) :
    p ∈ trail step (done ++ left) b w := by
  obtain ⟨first, rest, hsplit, hrun⟩ := mem_trail_iff.mp h
  -- what comes later does not matter for whether a stage is reached
  exact mem_trail_iff.mpr ⟨first, rest ++ left, by rw [hsplit]; simp, hrun⟩

theorem trail_append_of_ok {done left : List σ} {c : β} {v : World} (h : runAll step done b w = (.ok c, v))
    (hp : p ∈ trail step left c v) : p ∈ trail step (done ++ left) b w := by
  obtain ⟨first, rest, hsplit, hrun, hpassed⟩ := mem_trail_iff.mp hp
  refine mem_trail_iff.mpr ⟨done ++ first, rest, by rw [hsplit, List.append_assoc], ?_, hpassed⟩
  rw [runAll_append_of_ok h, hrun]

/-- What every stage of a run preserves holds at its end. -/
theorem inv_of_trail {I : World → Prop} (h : ∀ p ∈ trail step stages b w, I p.before → I p.after)
    (hw : I w) : I (runAll step stages b w).2 := by
  induction stages generalizing b w with
  | nil => exact hw
  | cons s rest ih =>
    rw [runAll_cons]
    cases hstep : step s b w with
    | mk outcome v =>
      cases outcome with
      | error g =>
        rw [trail_cons_of_error hstep] at h
        exact h _ (List.mem_cons_self ..) hw
      | ok b' =>
        rw [trail_cons_of_ok hstep] at h
        have hv : I v := h _ (List.mem_cons_self ..) hw
        exact ih (fun p hp => h p (List.mem_cons_of_mem _ hp)) hv

/-- What the stages before one preserve holds when the run comes to it. -/
theorem exists_inv_before (hp : p ∈ trail step stages b w) : ∃ done left,
    stages = done ++ p.stage :: left ∧ ∀ I : World → Prop, I w →
      (∀ q ∈ trail step stages b w, q.stage ∈ done → I q.before → I q.after) → I p.before := by
  obtain ⟨done, left, hsplit, hrun, _⟩ := mem_trail_iff.mp hp
  refine ⟨done, left, hsplit, fun I hw h => ?_⟩
  have hinv : I (runAll step done b w).2 := by
    refine inv_of_trail (fun q hq => ?_) hw
    obtain ⟨first, rest, hdone, _⟩ := mem_trail_iff.mp hq
    have hstage : q.stage ∈ done := hdone ▸ List.mem_append_right first (List.mem_cons_self ..)
    exact h q (hsplit ▸ trail_append_of_mem hq) hstage
  rwa [hrun] at hinv

/-- A stage that fails ends the run. -/
theorem runAll_of_error (hp : p ∈ trail step stages b w) {f : Failure} (hf : p.outcome = .error f) :
    runAll step stages b w = (.error f, p.after) := by
  obtain ⟨done, left, hsplit, hrun, hpassed⟩ := mem_trail_iff.mp hp
  rw [hsplit, runAll_append_of_ok hrun, runAll_cons, hpassed, hf]

/-- If a stage adds at most one entry to a list, a run adds entries in the order of its stages. -/
theorem exists_made {α : Type} (entries : World → List α) (Makes : σ → α → Prop)
    (h : ∀ p ∈ trail step stages b w, entries p.after = entries p.before ∨
      ∃ a, Makes p.stage a ∧ entries p.after = entries p.before ++ [a]) :
    ∃ made : List (σ × α), entries (runAll step stages b w).2 = entries w ++ made.map Prod.snd ∧
      (made.map Prod.fst).Sublist ((trail step stages b w).map fun p => p.stage) ∧
      ∀ x ∈ made, Makes x.1 x.2 := by
  induction stages generalizing b w with
  | nil => exact ⟨[], (List.append_nil _).symm, .slnil, fun x hx => absurd hx List.not_mem_nil⟩
  | cons s rest ih =>
    rw [runAll_cons]
    -- the entry of the first stage, if it adds one
    have hfirst : ∀ {outcome : Except Failure β} {v : World},
        (⟨s, b, w, outcome, v⟩ : Passage σ β) ∈ trail step (s :: rest) b w →
        ∃ made : List (σ × α), entries v = entries w ++ made.map Prod.snd ∧
          (made.map Prod.fst).Sublist [s] ∧ ∀ x ∈ made, Makes x.1 x.2 := by
      intro outcome v hmem
      rcases h _ hmem with hsame | ⟨a, ha, hadded⟩
      · exact ⟨[], by simpa using hsame, List.nil_sublist _, by simp⟩
      · exact ⟨[(s, a)], hadded, .refl _, by simpa using ha⟩
    cases hstep : step s b w with
    | mk outcome v =>
      cases outcome with
      | error g =>
        rw [trail_cons_of_error hstep] at hfirst ⊢
        exact hfirst (List.mem_singleton_self _)
      | ok b' =>
        rw [trail_cons_of_ok hstep] at hfirst h ⊢
        obtain ⟨made, hmade, hstage, hmakes⟩ := hfirst (List.mem_cons_self ..)
        obtain ⟨later, hlater, hstages, hmakes'⟩ := ih fun p hp => h p (List.mem_cons_of_mem _ hp)
        refine ⟨made ++ later, ?_, ?_, fun x hx => ?_⟩
        · simp only
          rw [hlater, hmade, List.map_append, List.append_assoc]
        · rw [List.map_append]
          exact hstage.append hstages
        · exact (List.mem_append.mp hx).elim (hmakes x) (hmakes' x)

end Trail

inductive Stage
  | download
  | unpack
  | document
  | generate
  | declare
  | reference
  | check
  | format
deriving DecidableEq, Repr

/-- What a build knows when it comes to a stage. -/
structure Progress where
  archive : Path := ⟨0, []⟩
  generated : Generated := ⟨"", 0, 0, []⟩
  checked : Bool := false
  formatted : Bool := false

structure BuildTask where
  version : VersionConfig
  config : Config
  skipFetch : Bool
  skipCheck : Bool

namespace BuildTask

variable (t : BuildTask)

def places : BuildPlaces := t.version.places t.config.output

def tools : ToolchainConfig := t.config.toolchain

/-- The file that is checked. It stands beside the declarations and refers to them. -/
def reference : Path := t.places.declaration.parent.child Act.referenceName

def checkArgs : List String := t.tools.tscCommand ++ [t.reference.toText]

def formatArgs : List String := t.tools.tsfmtCommand ++ [t.places.declaration.toText]

def fetching : List Stage := if t.skipFetch then [] else [.download, .unpack]

def checking : List Stage :=
  if t.skipCheck then [] else .reference :: .check :: if t.tools.formatOutput then [.format] else []

/-- The stages of a build that are asked for. -/
def stages : List Stage := t.fetching ++ .document :: .generate :: .declare :: t.checking

open Act in
def act : Stage → Progress → Act Progress
  | .download, p => do
    let archive ← download t.version.url t.places.directory false t.tools.downloadTimeout
    return { p with archive }
  | .unpack, p => do
    let _ ← unpack p.archive.toText t.places.directory t.version.folder
    return p
  | .document, p => do
    let _ ← exportDocs t.places.sources.toText t.places.docs t.tools.jsduck t.version.jsduckExtra
      t.tools.timeout
    return p
  | .generate, p => do
    let generated ← generate t.places.docs t.config (some t.version.docUrl) none
    return { p with generated }
  | .declare, p => do
    log .info .pipeline
      ("writing " ++ toString p.generated.classCount ++ " classes for " ++ t.version.name)
    let _ ← writeDeclarations p.generated.text t.places.declaration false
    return p
  | .reference, p => do
    let _ ← writeReference t.places.declaration
    return p
  | .check, p => do
    let result ← runTool "tsc" "check" t.checkArgs t.tools.timeout
    if result.ok then log .info .checker ("tsc accepted " ++ t.places.declaration.toText)
    if !result.ok then
      throw (.tool ⟨"tsc", "check", "generation failure on " ++ t.version.name ++ ": " ++
        clip 500 result.output, some result.exitCode, false⟩)
    return { p with checked := true }
  | .format, p => do
    let result ← runTool "tsfmt" "format" t.formatArgs t.tools.timeout
    if !result.ok then log .warn .pipeline "tsfmt failed; declarations usable but unformatted"
    return { p with formatted := result.ok }

def report (p : Progress) : BuildReport :=
  ⟨t.version.name, t.places.declaration.toText, p.generated.classCount, p.generated.diagnostics,
    p.checked, p.formatted⟩

def build : Act BuildReport := Act.build t.version t.config t.skipFetch t.skipCheck

/-- The passages of a build. -/
def passages (w : World) : List (Passage Stage Progress) := trail t.act t.stages {} w

theorem runAll_checking (archive : Path) (g : Generated) :
    (do
      let p ← Act.runAll t.act t.checking { archive, generated := g }
      return t.report p : Act BuildReport) =
    if t.skipCheck then return t.report { archive, generated := g }
    else Act.gate t.version t.tools t.places (t.report { archive, generated := g }) := by
  unfold checking
  cases t.skipCheck with
  | true => rfl
  | false =>
    unfold Act.gate Act.check
    simp only [Bool.false_eq_true, if_false, Act.runAll_cons_bind, bind_assoc, pure_bind, act, checkArgs, reference,
      Act.writeReference]
    refine bind_congr fun _ => ?_
    refine bind_congr fun result => ?_
    obtain ⟨ok, code, output⟩ := result
    -- both ask whether the compiler accepted the file twice: for the log and for going on
    cases ok with
    | false =>
      simp only [Bool.not_false, Bool.false_eq_true, if_true, if_false, pure_bind, Act.throw_bind]
    | true =>
      simp only [Bool.not_true, Bool.false_eq_true, if_true, if_false, bind_assoc, pure_bind]
      refine bind_congr fun _ => ?_
      cases t.tools.formatOutput with
      | false => simp only [Bool.false_eq_true, if_false, Act.runAll_nil_eq, pure_bind, report]
      | true =>
        simp only [if_true, Act.runAll_cons_bind, Act.runAll_nil_eq, bind_assoc, pure_bind, act, formatArgs,
          Act.format]
        refine bind_congr fun formatted => ?_
        split
        · simp only [bind_assoc, pure_bind, report]
        · simp only [pure_bind, report]

/-- A build is the run of its stages. -/
theorem build_eq : t.build = do
    let p ← Act.runAll t.act t.stages {}
    return t.report p := by
  unfold build Act.build stages fetching
  cases t.skipFetch with
  | true =>
    simp only [Bool.not_true, Bool.false_eq_true, if_true, if_false, List.nil_append,
      Act.runAll_cons_bind, bind_assoc, pure_bind, act, runAll_checking]
    rfl
  | false =>
    simp only [Bool.not_false, Bool.false_eq_true, if_true, if_false, List.cons_append, List.nil_append,
      Act.runAll_cons_bind, bind_assoc, pure_bind, act, Act.fetchVersion, runAll_checking]
    rfl

end BuildTask
end AmbientDecls
