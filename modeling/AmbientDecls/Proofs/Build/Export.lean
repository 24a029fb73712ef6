import Mathlib
import AmbientDecls.Build.Steps
import AmbientDecls.Proofs.Files.Status

/-! What a failed export of the documentation leaves behind. The directory is taken away only after the tool has
exited, so every earlier failure leaves it, and the next export takes it for a finished one. -/

namespace AmbientDecls

/-- Whether a run finds something at a path. -/
def World.Has (w : World) (p : Path) : Prop := (Act.contains p w).1 = .ok true

namespace Act

variable {w w' : World} {p : Path}

theorem get_apply (w : World) : (get : Act World) w = (.ok w, w) := rfl

theorem contains_apply (p : Path) (w : World) :
    contains p w = if p.hasNul then (.ok false, w)
      else match w.files.status p with
        | .ok n => (.ok n.isSome, w)
        | .error c => (.error (.file ⟨c, some p.toText, none⟩), w) := by
  unfold contains node?
  cases p.hasNul with
  | true => rfl
  | false =>
    simp only [bind_apply, Bool.false_eq_true, if_false, get_apply]
    cases w.files.status p <;> rfl

theorem contains_eq_ok {b : Bool} (h : (contains p w).1 = .ok b) : contains p w = (.ok b, w) := by
  have hworld : (contains p w).2 = w := by
    rw [contains_apply]
    split
    · rfl
    · split <;> rfl
  exact Prod.ext h hworld

theorem usable_eq_ok (h : usable p w = (.ok (), w')) : p.hasNul = false ∧ w' = w := by
  unfold usable at h
  cases hnul : p.hasNul with
  | true =>
    rw [hnul] at h
    cases h
  | false =>
    rw [hnul] at h
    cases h
    exact ⟨rfl, rfl⟩

theorem change_eq_ok {target : Option Path} {f : FileTree → Except FileCause FileTree}
    (h : change p target f w = (.ok (), w')) : p.hasNul = false ∧ f w.files = .ok w'.files := by
  obtain ⟨_, v, husable, hchange⟩ := bind_eq_ok h
  obtain ⟨hnul, rfl⟩ := usable_eq_ok husable
  rw [bind_apply, get_apply] at hchange
  simp only at hchange
  cases hf : f v.files with
  | error c =>
    rw [hf] at hchange
    cases hchange
  | ok t =>
    rw [hf] at hchange
    cases hchange
    exact ⟨hnul, rfl⟩

/-- However a directory comes to be made, the last step makes it where nothing was. -/
theorem makeNew_eq_ok (h : makeNew p w = (.ok (), w')) : p.hasNul = false ∧
    ∃ v, (v = w ∨ ensure p.parent w = (.ok (), v)) ∧ v.files.makeDirectory p = .ok w'.files := by
  obtain ⟨_, v, husable, hmake⟩ := bind_eq_ok h
  obtain ⟨_, rfl⟩ := usable_eq_ok husable
  have hlast : ∃ u, (u = v ∨ ensure p.parent v = (.ok (), u)) ∧ makeDirectory p u = (.ok (), w') := by
    rw [bind_apply, get_apply] at hmake
    simp only at hmake
    cases hfirst : v.files.makeDirectory p with
    | ok t =>
      rw [hfirst] at hmake
      exact ⟨v, Or.inl rfl, hmake⟩
    | error c =>
      rw [hfirst] at hmake
      cases c with
      | notFound =>
        obtain ⟨_, u, hensure, hu⟩ := bind_eq_ok hmake
        exact ⟨u, Or.inr hensure, hu⟩
      | _ => exact ⟨v, Or.inl rfl, hmake⟩
  obtain ⟨u, hbefore, hu⟩ := hlast
  obtain ⟨hnul, htree⟩ := change_eq_ok hu
  exact ⟨hnul, u, hbefore, htree⟩

section Tool

variable (tool stage word : String) (rest : List String) (timeout : Int) (w : World)

/-- What a tool that was started for a stage comes to by the way it ends. -/
def toolOutcome : ToolEnd → Except Failure ToolResult
  | .exited code output errors => .ok ⟨code = 0, code, output ++ errors⟩
  | .missing => .error (.tool ⟨tool, stage, "executable not found: " ++ word, none, true⟩)
  | .timedOut =>
    .error (.tool ⟨tool, stage, "timed out after " ++ toString timeout ++ "s", none, true⟩)
  | .denied => .error (.file ⟨.permission, some word, none⟩)

theorem log_apply (level : LogLevel) (source : LogSource) (message : String) :
    log level source message w = (.ok (), { w with log := w.log ++ [⟨level, source, message⟩] }) := rfl

theorem start_log (records : List LogRecord) (args : List String) :
    World.start { w with log := records } args timeout =
      ((w.start args timeout).1, { (w.start args timeout).2 with log := records }) := by
  unfold World.start
  cases w.tools <;> rfl

/-- Running a tool leaves the files as the tool left them. -/
theorem runTool_apply :
    (runTool tool stage (word :: rest) timeout w).1 =
        toolOutcome tool stage word timeout (w.start (word :: rest) timeout).1 ∧
      (runTool tool stage (word :: rest) timeout w).2.files =
        (w.start (word :: rest) timeout).2.files := by
  have hstart : ∀ v : World, start (word :: rest) timeout v =
      (.ok (v.start (word :: rest) timeout).1, (v.start (word :: rest) timeout).2) := fun _ => rfl
  unfold runTool
  rw [bind_apply, log_apply]
  simp only
  rw [bind_apply, hstart, start_log]
  simp only
  cases (w.start (word :: rest) timeout).1 with
  | exited code output errors =>
    by_cases hcode : code = 0
    · subst hcode
      exact ⟨rfl, rfl⟩
    · simp only [ne_eq, hcode, not_false_eq_true, if_true]
      exact ⟨by simp [toolOutcome, hcode, bind_apply, log_apply], rfl⟩
  | missing => exact ⟨rfl, rfl⟩
  | denied => exact ⟨rfl, rfl⟩
  | timedOut => exact ⟨rfl, rfl⟩

end Tool
end Act

theorem FileTree.put_home (t : FileTree) (place : Place) (n : Node) : (t.put place n).home = t.home := by
  have habove : ∀ (above : List Place) (t : FileTree),
      (above.foldl (fun t p => if (t.at? p).isNone then t.set p .directory else t) t).home =
        t.home := by
    intro above
    induction above with
    | nil => intro t; rfl
    | cons p above ih =>
      intro t
      rw [List.foldl_cons, ih]
      split <;> rfl
  unfold FileTree.put
  simp only
  split
  · exact habove _ t
  · exact habove _ t

namespace World

variable {w : World} {p : Path}

theorem start_home (args : List String) (timeout : Int) :
    (w.start args timeout).2.files.home = w.files.home := by
  have hwrites : ∀ (writes : List (Path × Node)) (t : FileTree),
      (writes.foldl (fun t e => t.put (t.home ++ e.1.parts) e.2) t).home = t.home := by
    intro writes
    induction writes with
    | nil => intro t; rfl
    | cons e writes ih =>
      intro t
      rw [List.foldl_cons, ih, FileTree.put_home]
  unfold start
  cases w.tools with
  | nil => rfl
  | cons run rest => exact hwrites run.writes w.files

theorem has_iff : w.Has p ↔ p.hasNul = false ∧ ∃ n, w.files.status p = .ok (some n) := by
  unfold Has
  rw [Act.contains_apply]
  cases p.hasNul with
  | true => simp
  | false =>
    cases w.files.status p with
    | error c => simp
    | ok n => cases n <;> simp

theorem has_congr {v : World} (h : v.files = w.files) : v.Has p ↔ w.Has p := by
  rw [has_iff, has_iff, h]

end World

def ToolEnd.hasExited : ToolEnd → Bool
  | .exited .. => true
  | _ => false

namespace Act

variable {w w' : World} {directory : Path} {sources executable extra : String} {timeout : Int}

/-- The words that the tool is started with. -/
def exportArgs (sources : String) (directory : Path) (executable : String)
    (words : List String) : List String :=
  [executable, sources] ++ words ++ ["--export=full", "--output", directory.toText]

/-- What follows a run of the tool: after an exit with a code other than zero the directory is taken away. -/
def concluded (directory : Path) : Except Failure ToolResult × World → Except Failure Bool × World
  | (.error f, w) => (.error f, w)
  | (.ok result, w) =>
    if result.ok then (.ok true, w)
    else (.error (.tool ⟨"jsduck", "export", clip 500 result.output, some result.exitCode, false⟩),
      { w with files := w.files.removeAll directory })

theorem exportDocs_apply (habsent : (contains directory w).1 = .ok false) :
    exportDocs sources directory executable extra timeout w =
      match makeNew directory w with
      | (.error f, w₁) => (.error f, w₁)
      | (.ok _, w₁) =>
        match ShellWords.ofText extra with
        | .error fault => (.error (.shellWords fault), w₁)
        | .ok words => concluded directory
            (runTool "jsduck" "export" (exportArgs sources directory executable words) timeout w₁) := by
  unfold exportDocs
  rw [bind_apply, contains_eq_ok habsent]
  simp only [Bool.false_eq_true, if_false]
  rw [bind_apply]
  cases makeNew directory w with
  | mk made w₁ =>
    cases made with
    | error f => rfl
    | ok _ =>
      cases ShellWords.ofText extra with
      | error fault => rfl
      | ok words =>
        simp only [exportArgs]
        rw [bind_apply]
        cases runTool "jsduck" "export" ([executable, sources] ++ words ++
            ["--export=full", "--output", directory.toText]) timeout w₁ with
        | mk ended w₂ =>
          cases ended with
          | error f => rfl
          | ok result => cases hok : result.ok <;> simp only [concluded, hok] <;> rfl

end Act
end AmbientDecls
