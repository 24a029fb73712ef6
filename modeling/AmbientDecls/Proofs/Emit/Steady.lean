import AmbientDecls.Emit.File
import AmbientDecls.Proofs.Types.Dialogue

/-! Members, classes and modules come to the same declarations wherever built-in types are shown the same. A module has
a scope of its own, so it comes to the same declaration everywhere. -/

namespace AmbientDecls

open Emit

namespace Emit.Closed

variable {Q : (α : Type) → Emit α → Prop}

/-- Lists of parameters are made of conversions and of one more kind of report. -/
theorem build (h : Closed Q)
    (hrepeated : ∀ subject, Q Unit (warn .duplicateParam subject "skipping duplicate parameter"))
    (l : ParamList) (ps : List Param) (seen : List String) (optional : Bool) :
    Q (List Parameter) (l.build ps seen optional) := by
  induction ps generalizing seen optional with
  | nil => exact h.value []
  | cons p ps ih =>
    unfold ParamList.build
    simp only
    split
    · exact h.sequence (hrepeated _) fun _ => ih seen optional
    · cases restElement? p.type with
      | some element =>
        simp only
        split
        · exact h.sequence (h.convert l.r element p.properties) fun t => h.value _
        · exact h.value _
      | none =>
        simp only
        split
        · exact h.sequence (h.value _) fun type => h.sequence (ih _ _) fun more => h.value _
        · refine h.sequence (h.convert l.r p.type p.properties) fun type => ?_
          exact h.sequence (ih _ _) fun more => h.value _

theorem configFields (h : Closed Q) (e : Emitter) (ms : List Member) (seen : List String) :
    Q (List ConfigField) (e.configFields ms seen) := by
  induction ms generalizing seen with
  | nil => exact h.value []
  | cons m ms ih =>
    unfold Emitter.configFields
    split
    · split
      · exact ih seen
      · exact h.sequence (h.convert _ _ none) fun t => h.sequence (ih _) fun more => h.value _
    · exact ih seen

end Emit.Closed

theorem ParamList.isDialogue_build (l : ParamList) (ps : List Param) (seen : List String)
    (optional : Bool) : IsDialogue (l.build ps seen optional) :=
  closed_isDialogue.build (fun subject => isDialogue_warn .duplicateParam subject _) l ps seen optional

namespace Emitter

variable (e : Emitter) (c : ClassRef)

theorem isDialogue_signature? (m : Member) : IsDialogue (e.signature? c m) := by
  unfold signature?
  cases m.body with
  | property type optional =>
    simp only
    split
    · exact (isDialogue_warn _ _ _).bind fun _ => isDialogue_pure none
    · exact (isDialogue_convert _ _ none).bind fun t => isDialogue_pure _
  | config type optional required =>
    simp only
    split
    · exact (isDialogue_warn _ _ _).bind fun _ => isDialogue_pure none
    · split
      · exact isDialogue_pure none
      · exact (isDialogue_convert _ _ none).bind fun t => isDialogue_pure _
  | method params returns =>
    refine (ParamList.isDialogue_build _ params [] false).bind fun ps => ?_
    split
    · exact isDialogue_pure _
    · cases returns with
      | none => exact isDialogue_pure _
      | some p => exact (isDialogue_convert _ p.type p.properties).bind fun t => isDialogue_pure _

theorem isDialogue_member (m : Member) : IsDialogue (e.member c m) := by
  unfold member
  split
  · exact (e.isDialogue_signature? c m).bind fun s => isDialogue_pure _
  · exact isDialogue_pure none

theorem isDialogue_configFields (ms : List Member) (seen : List String) :
    IsDialogue (e.configFields ms seen) := closed_isDialogue.configFields e ms seen

theorem isDialogue_configInterface : IsDialogue (e.configInterface c) :=
  (e.isDialogue_configFields _ _).bind fun _ => isDialogue_pure _

theorem isDialogue_body (ms : List Member) (emitted : List (String × Bool)) :
    IsDialogue (e.body c ms emitted) := by
  induction ms generalizing emitted with
  | nil => exact isDialogue_pure []
  | cons m ms ih =>
    unfold body
    refine (e.isDialogue_member c m).bind fun d => ?_
    cases d with
    | none => exact ih emitted
    | some d =>
      simp only
      split
      · exact (isDialogue_warn _ _ _).bind fun _ => ih emitted
      · exact (ih _).bind fun more => isDialogue_pure _

theorem isDialogue_warnParent : IsDialogue (e.warnParent c) := by
  unfold warnParent
  split
  · exact isDialogue_warn _ _ _
  · exact isDialogue_pure ()

/-- What stands before a class: its configuration interface, if it has one. -/
def configPart : Emit (Option ConfigInterface) :=
  if e.registry.emitsConstructor c then some <$> e.configInterface c else pure none

theorem classDecl_eq : e.classDecl c =
    e.configPart c >>= fun config => e.warnParent c >>= fun _ =>
      e.body c c.members [] >>= fun members =>
        pure ⟨config, docComment c.shortDoc (e.classUrl c), !c.moduleName.isEmpty, c.baseName,
          e.extends? c, members⟩ := by
  unfold classDecl configPart
  split <;> rfl

theorem isDialogue_configPart : IsDialogue (e.configPart c) := by
  unfold configPart
  split
  · exact (e.isDialogue_configInterface c).map some
  · exact isDialogue_pure none

theorem isDialogue_classDecl : IsDialogue (e.classDecl c) := by
  rw [classDecl_eq]
  refine (e.isDialogue_configPart c).bind fun config => ?_
  refine (e.isDialogue_warnParent c).bind fun _ => ?_
  exact (e.isDialogue_body c _ _).bind fun members => isDialogue_pure _

theorem steady_classDecl : Steady (e.classDecl c) := (e.isDialogue_classDecl c).steady

end Emitter

namespace Emit

variable {α : Type} {shown : String → String} {scope : Scope} {act : Emit α}

theorem run_within (s : EmitState) :
    (within scope act).run s =
      (((act.run ⟨some scope, s.diagnostics⟩).1,
        (act.run ⟨some scope, s.diagnostics⟩).2.scope.getD scope),
        ⟨s.scope, (act.run ⟨some scope, s.diagnostics⟩).2.diagnostics⟩) := rfl

/-- In a scope of its own an emission comes to the same everywhere, and resolves nothing outside. -/
theorem comesTo_within {r : Result α} (h : ComesTo scope.shown act r) :
    ComesTo shown (within scope act)
      ⟨(r.value, scope.resolveAll r.targets), [], r.reports⟩ := by
  rintro ⟨outer, diagnostics⟩ _
  rw [run_within, h _ rfl]
  cases outer <;> rfl

end Emit

namespace Emitter

variable (e : Emitter)

/-- What a module comes to by what its classes come to. -/
def moduleResult (m : Module) (r : ClassRef → Result ClassDecl) : Result ModuleDecl where
  value := ⟨m.name, m.classes.map fun c => (r c).value,
    ((e.scopeOf m).resolveAll (m.classes.flatMap fun c => (r c).targets)).aliases⟩
  targets := []
  reports := m.classes.flatMap fun c => (r c).reports

theorem comesTo_moduleDecl {shown : String → String} {m : Module} {r : ClassRef → Result ClassDecl}
    (h : ∀ c ∈ m.classes, ComesTo (e.scopeOf m).shown (e.classDecl c) (r c)) :
    ComesTo shown (e.moduleDecl m) (e.moduleResult m r) := by
  intro s hs
  unfold moduleDecl
  rw [run_bind, comesTo_within (comesTo_mapM m.classes h) s hs]
  rfl

/-- Modules are declared one after the other, and leave no trace but what they report. -/
theorem run_modules {r : Module → ClassRef → Result ClassDecl} {modules : List Module}
    (h : ∀ m ∈ modules, ∀ c ∈ m.classes, ComesTo (e.scopeOf m).shown (e.classDecl c) (r m c))
    (s : EmitState) :
    (modules.mapM e.moduleDecl).run s =
      (modules.map fun m => (e.moduleResult m (r m)).value,
        s.after [] (modules.flatMap fun m => (e.moduleResult m (r m)).reports)) := by
  have hmodules : ComesTo (shownIn s.scope) (modules.mapM e.moduleDecl) _ :=
    comesTo_mapM modules fun m hm => e.comesTo_moduleDecl (h m hm)
  have htargets : (modules.flatMap fun m => (e.moduleResult m (r m)).targets) = [] :=
    List.flatMap_eq_nil_iff.mpr fun _ _ => rfl
  rw [hmodules s rfl]
  simp only [htargets]

theorem run_file {r : Module → ClassRef → Result ClassDecl}
    (h : ∀ m ∈ e.registry.modules, ∀ c ∈ m.classes,
      ComesTo (e.scopeOf m).shown (e.classDecl c) (r m c)) (generatedAt : Timestamp) (s : EmitState) :
    (e.file generatedAt).run s =
      (e.fileText generatedAt (e.registry.modules.map fun m => (e.moduleResult m (r m)).value),
        s.after [] (e.registry.modules.flatMap fun m => (e.moduleResult m (r m)).reports)) := by
  unfold file
  rw [run_bind, e.run_modules h]
  rfl

theorem exists_results : ∃ r : Module → ClassRef → Result ClassDecl,
    ∀ m c, ComesTo (e.scopeOf m).shown (e.classDecl c) (r m c) := by
  choose r hr using fun (m : Module) c => e.steady_classDecl c (e.scopeOf m).shown
  exact ⟨r, hr⟩

/-- Classes of a module are declared as each would be alone in the scope of the module. -/
theorem classes_moduleDecl (m : Module) (s : EmitState) : ((e.moduleDecl m).run s).1.classes =
    m.classes.map fun c => ((e.classDecl c).run ⟨some (e.scopeOf m), []⟩).1 := by
  obtain ⟨r, hr⟩ := e.exists_results
  rw [e.comesTo_moduleDecl (fun c _ => hr m c) s rfl]
  refine List.map_congr_left fun c _ => ?_
  rw [hr m c _ rfl]

end Emitter
end AmbientDecls
