import Mathlib
import AmbientDecls.CommandLine.Run
import AmbientDecls.Proofs.Emit.Hierarchy
import AmbientDecls.Proofs.Emit.Steady

/-! Declarations do not depend on what was declared before. A class comes to one text in the scope of its module, however
that scope was used: alone, in its module, in the file, and when it is inspected. -/

namespace AmbientDecls

open Emit

/-- What an emitter is asked for in a scope. -/
inductive Emitter.Call
  | classDecl (c : ClassRef)
  | member (c : ClassRef) (m : Member)
  | convert (type : String) (descriptors : Option (List Param))

namespace Emitter

variable (e : Emitter)

def answer : Call → Emit Unit
  | .classDecl c => do
    let _ ← e.classDecl c
  | .member c m => do
    let _ ← e.member c m
  | .convert type descriptors => do
    let _ ← AmbientDecls.convert e.registry type descriptors

/-- The text of a class in a new scope of a module. -/
def classText (m : Module) (c : ClassRef) : String :=
  ((e.classDecl c).run { scope := some (e.scopeOf m) }).1.render

theorem isDialogue_answer (q : Call) : IsDialogue (e.answer q) := by
  cases q with
  | classDecl c => exact (e.isDialogue_classDecl c).bind fun _ => isDialogue_pure ()
  | member c m => exact (e.isDialogue_member c m).bind fun _ => isDialogue_pure ()
  | convert type descriptors =>
    exact (isDialogue_convert _ type descriptors).bind fun _ => isDialogue_pure ()

theorem steady_forM_answer (calls : List Call) : Steady (calls.forM e.answer) := by
  induction calls with
  | nil => exact steady_pure ()
  | cons q calls ih => exact (e.isDialogue_answer q).steady.bind fun _ => ih

variable {e} {m : Module} {r : ClassRef → Result ClassDecl}

theorem classText_eq {c : ClassRef}
    (h : ComesTo (e.scopeOf m).shown (e.classDecl c) (r c)) :
    e.classText m c = (r c).value.render := by
  rw [classText, h _ rfl]

theorem moduleText_eq (h : ∀ c ∈ m.classes, ComesTo (e.scopeOf m).shown (e.classDecl c) (r c)) :
    (e.moduleResult m r).value.render =
      if m.name.isEmpty then "\n".intercalate (m.classes.map (e.classText m))
      else "declare namespace " ++ m.name ++ " \x7b\n" ++
        "\n".intercalate (m.classes.map (e.classText m)) ++ "\n\x7d" := by
  have htexts : (m.classes.map fun c => (r c).value).map ClassDecl.render =
      m.classes.map (e.classText m) := by
    rw [List.map_map]
    exact List.map_congr_left fun c hc => (classText_eq (h c hc)).symm
  simp only [moduleResult, ModuleDecl.render, htexts]

end Emitter

theorem infix_intercalate {separator a : String} {l : List String} (h : a ∈ l) :
    a.toList <:+: (separator.intercalate l).toList := by
  induction l with
  | nil => cases h
  | cons b l ih =>
    cases l with
    | nil =>
      obtain rfl := List.mem_singleton.mp h
      exact ⟨[], [], by rw [String.intercalate_singleton, List.nil_append, List.append_nil]⟩
    | cons d l =>
      rw [String.intercalate_cons_cons, String.toList_append, String.toList_append]
      rcases List.mem_cons.mp h with rfl | hrest
      · exact ⟨[], _, by rw [List.nil_append, List.append_assoc]⟩
      · exact (ih hrest).trans (List.suffix_append _ _).isInfix

namespace Emitter

variable {e : Emitter} {m : Module}

/-- The text of every class stands in the file. -/
theorem classText_infix_file (hm : m ∈ e.registry.modules) {c : ClassRef} (hc : c ∈ m.classes)
    (generatedAt : Timestamp) (s : EmitState) :
    (e.classText m c).toList <:+: ((e.file generatedAt).run s).1.toList := by
  obtain ⟨r, hr⟩ := e.exists_results
  have hclass : (e.classText m c).toList <:+: (e.moduleResult m (r m)).value.render.toList := by
    have htexts : (e.classText m c).toList <:+:
        ("\n".intercalate (m.classes.map (e.classText m))).toList :=
      infix_intercalate (List.mem_map_of_mem hc)
    rw [moduleText_eq fun c _ => hr m c]
    split
    · exact htexts
    · rw [String.toList_append, String.toList_append]
      exact htexts.trans ⟨_, _, rfl⟩
  rw [e.run_file (fun m _ c _ => hr m c), fileText]
  simp only
  rw [String.toList_append]
  refine (hclass.trans (infix_intercalate ?_)).trans (List.prefix_append _ _).isInfix
  refine List.mem_append_right _ ?_
  rw [List.map_map]
  exact List.mem_map_of_mem (f := ModuleDecl.render ∘ fun m => (e.moduleResult m (r m)).value) hm

end Emitter

namespace Registry

/-- Every class is in the module of its name. -/
theorem find?_modules {r : Registry} {c : ClassRef} (hc : c ∈ r.classes) :
    ∃ m ∈ r.modules, c ∈ m.classes ∧
      r.modules.find? (fun m => m.name = c.moduleName) = some m := by
  have hname := mem_moduleNames hc
  refine ⟨⟨c.moduleName, r.classes.filter fun d => d.moduleName = c.moduleName⟩,
    List.mem_map_of_mem hname, List.mem_filter.mpr ⟨hc, by simp⟩, ?_⟩
  have hsome : (r.modules.find? fun m => m.name = c.moduleName).isSome := by
    rw [List.find?_isSome]
    exact ⟨_, List.mem_map_of_mem hname, decide_eq_true rfl⟩
  obtain ⟨m, hm⟩ := Option.isSome_iff_exists.mp hsome
  rw [hm]
  obtain ⟨n, _, rfl⟩ := List.mem_map.mp (List.mem_of_find?_eq_some hm)
  obtain rfl : n = c.moduleName := by simpa using List.find?_some hm
  rfl

end Registry

namespace Act

variable {w w' : World}

theorem lookAt_apply {α : Type} {p : Path} {f : FileTree → Except FileCause α} {a : α}
    (hnul : p.hasNul = false) (h : f w.files = .ok a) : lookAt p f w = (.ok a, w) := by
  have hget : (get : Act World) w = (.ok w, w) := rfl
  simp [lookAt, usable, hnul, bind_apply, hget, h]

theorem loadRegistry_eq_ok {directory : Path} {config : RegistryConfig} {r : Registry}
    (h : loadRegistry directory config w = (.ok r, w')) : ∃ records, r = .ofRecords records := by
  obtain ⟨records, v, _, hregister⟩ := bind_eq_ok h
  rw [register_apply] at hregister
  cases hregister
  exact ⟨records, rfl⟩

/-- Logs what was reported in an emission. -/
def report (d : Diagnostic) : Act Unit :=
  log .warn .diagnostics (d.kind.word ++ ": " ++ d.message ++ " (" ++ d.subject ++ ")")

theorem emission_bind {α β : Type} (act : Emit α) (s : EmitState) (f : α × EmitState → Act β) :
    emission act s >>= f = (do
      ((act.run s).2.diagnostics.drop s.diagnostics.length).forM report
      f (act.run s)) := by
  unfold emission
  have hrun : act s = ((act.run s).1, (act.run s).2) := rfl
  rw [hrun]
  simp only [bind_assoc, pure_bind]
  rfl

/-- An inspection shows the text of a class in its module, between its record and what was reported of it. -/
theorem runInspect_apply {input name : String} {config : Config} {r : Registry} {c : ClassRef}
    (hload : loadRegistry (Path.ofText input) config.registry w = (.ok r, w'))
    (hfind : r.find? name = some c) :
    ∃ m ∈ r.modules, c ∈ m.classes ∧
      let e : Emitter := ⟨r, config.emitter⟩
      let reports := ((e.classDecl c).run { scope := some (e.scopeOf m) }).2.diagnostics
      runInspect input name config w = (do
        showClass r c
        reports.forM report
        code (e.classText m c)
        showDiagnostics reports
        return 0 : Act Nat) w' := by
  obtain ⟨records, rfl⟩ := loadRegistry_eq_ok hload
  obtain ⟨m, hm, hc, hmodule⟩ := Registry.find?_modules (Registry.mem_classes_of_find? hfind)
  refine ⟨m, hm, hc, ?_⟩
  unfold runInspect
  rw [bind_apply, attempt_apply, hload]
  simp only [hfind, hmodule, Option.map_some, emission_bind]
  rfl

end Act

/-! A directory that documents one class. -/

def exampleText : String := "\x7b\"tagname\":\"class\",\"name\":\"Ext.Date\"\x7d"

def exampleHost : World where
  files := ⟨[(["docs"], .directory), (["docs", "Ext.Date.json"], .file (Utf8.encode exampleText))], []⟩
  clock := ⟨2024, 1, 2, 3, 4, 5, 0, none⟩

theorem list_exampleHost :
    Act.list ⟨0, ["docs"]⟩ exampleHost = (.ok ["Ext.Date.json"], exampleHost) :=
  Act.lookAt_apply (by simp [Path.hasNul]) (by cbv)

theorem loadRecord_exampleHost (detached : List String) :
    Act.loadRecord detached ⟨0, ["docs", "Ext.Date.json"]⟩ exampleHost =
      (.ok { name := "Ext.Date" }, exampleHost) := by
  let d : Data := .record [("tagname", .text "class"), ("name", .text "Ext.Date")]
  have hread : Act.read ⟨0, ["docs", "Ext.Date.json"]⟩ exampleHost =
      (.ok (Utf8.encode exampleText), exampleHost) :=
    Act.lookAt_apply (by simp [Path.hasNul]) rfl
  have htext : Utf8.decode (Utf8.encode exampleText) = .ok exampleText := by cbv
  have hjson : Json.ofText exampleText = .ok d := by cbv
  have htag : (d.get? "tagname").bind Data.text? = some "class" := rfl
  have hdata : ClassRecord.ofData d = .passed { name := "Ext.Date" } := rfl
  have hexcept : ∀ c : ClassRecord,
      (ofExcept (Except.ok c) : Act ClassRecord) exampleHost = (.ok c, exampleHost) := fun _ => rfl
  simp [Act.loadRecord, Act.readText, Act.bind_apply, hread, htext, readRecord, hjson, htag, hdata,
    hexcept, ClassRecord.detach]

theorem loadRegistry_exampleHost : ∃ w, Act.loadRegistry (Path.ofText "docs") {} exampleHost =
    (.ok (Registry.ofRecords [{ name := "Ext.Date" }]), w) := by
  have hpath : Path.ofText "docs" = ⟨0, ["docs"]⟩ := by decide
  have hchild : (⟨0, ["docs"]⟩ : Path).child "Ext.Date.json" = ⟨0, ["docs", "Ext.Date.json"]⟩ := by
    decide
  have hrecords : ∃ w, Act.loadRecords ⟨0, ["docs"]⟩ {} exampleHost =
      (.ok [{ name := "Ext.Date" }], w) := by
    have hwanted : (["Ext.Date.json"].filter fun n => "Ext.".toList.isPrefixOf n.toList) =
        ["Ext.Date.json"] := by decide
    unfold Act.loadRecords
    simp only [Act.bind_apply, list_exampleHost, hwanted, List.mapM_cons, List.mapM_nil, hchild,
      loadRecord_exampleHost, Act.pure_apply]
    exact ⟨_, rfl⟩
  obtain ⟨w, hw⟩ := hrecords
  unfold Act.loadRegistry
  rw [hpath, Act.bind_apply, hw]
  exact ⟨_, Act.register_apply _ _⟩

namespace Emitter

open Act

/-- However the scope of a module was used before, a class comes to the text that it has in a new one. So a module is
made of these texts, a file comes out the same however often it is emitted, and an inspection shows a class with the
text that stands in the file. -/
theorem classText_independent_of_history (r : Registry) (config : Config) :
    let e : Emitter := ⟨r, config.emitter⟩
    (∀ (m : Module) (calls : List Call) (ds : List Diagnostic) (c : ClassRef),
      let used := ((calls.forM e.answer).run ⟨some (e.scopeOf m), ds⟩).2
      ((e.classDecl c).run used).1.render = e.classText m c) ∧
    (∀ (m : Module) (s : EmitState), ((e.moduleDecl m).run s).1.render =
      if m.name.isEmpty then "\n".intercalate (m.classes.map (e.classText m))
      else "declare namespace " ++ m.name ++ " \x7b\n" ++
        "\n".intercalate (m.classes.map (e.classText m)) ++ "\n\x7d") ∧
    (∀ (generatedAt : Timestamp) (s t : EmitState),
      ((e.file generatedAt).run t).1 = ((e.file generatedAt).run s).1) ∧
    (∀ (input name : String) (c : ClassRef) (w w' : World),
      loadRegistry (Path.ofText input) config.registry w = (.ok r, w') → r.find? name = some c →
      ∃ m ∈ r.modules, c ∈ m.classes ∧
        (∀ generatedAt s,
          (e.classText m c).toList <:+: ((e.file generatedAt).run s).1.toList) ∧
        ∃ reports, runInspect input name config w = (do
          showClass r c
          reports.forM report
          code (e.classText m c)
          showDiagnostics reports
          return 0 : Act Nat) w') := by
  intro e
  obtain ⟨results, hresults⟩ := e.exists_results
  refine ⟨fun m calls ds c => ?_, fun m s => ?_, fun generatedAt s t => ?_, ?_⟩
  · -- whatever the calls resolved, the scope shows built-in types as a new one does
    obtain ⟨q, hq⟩ := e.steady_forM_answer calls (e.scopeOf m).shown
    have hused := hresults m c ((EmitState.mk (some (e.scopeOf m)) ds).after q.targets q.reports)
      (EmitState.shownIn_after _ _ _)
    rw [classText_eq (hresults m c), hq _ rfl]
    simp only [hused]
  · rw [comesTo_moduleDecl e (fun c _ => hresults m c) s rfl]
    exact moduleText_eq fun c _ => hresults m c
  · rw [e.run_file fun m _ c _ => hresults m c, e.run_file fun m _ c _ => hresults m c]
  · intro input name c w w' hload hfind
    obtain ⟨m, hm, hc, hinspect⟩ := runInspect_apply hload hfind
    exact ⟨m, hm, hc, classText_infix_file hm hc, _, hinspect⟩

theorem classText_independent_of_history_exampleHost :
    let r := Registry.ofRecords [{ name := "Ext.Date" }]
    let e : Emitter := ⟨r, {}⟩
    ∃ c w, (loadRegistry (Path.ofText "docs") {} exampleHost = (.ok r, w) ∧
      r.find? "Ext.Date" = some c) ∧
      ∃ m ∈ r.modules, c ∈ m.classes ∧
        (∀ generatedAt s,
          (e.classText m c).toList <:+: ((e.file generatedAt).run s).1.toList) ∧
        ∃ reports, runInspect "docs" "Ext.Date" {} exampleHost = (do
          showClass r c
          reports.forM report
          code (e.classText m c)
          showDiagnostics reports
          return 0 : Act Nat) w := by
  intro r e
  obtain ⟨w, hload⟩ := loadRegistry_exampleHost
  have hfind : r.find? "Ext.Date" = some ⟨{ name := "Ext.Date" }, some 0⟩ := rfl
  obtain ⟨_, _, _, hinspect⟩ := classText_independent_of_history r {}
  exact ⟨_, w, ⟨hload, hfind⟩, hinspect "docs" "Ext.Date" _ exampleHost w hload hfind⟩

end Emitter

end AmbientDecls
