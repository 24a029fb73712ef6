import AmbientDecls.Proofs.Emit.Constructors
import AmbientDecls.Proofs.Emit.Layout

/-! Names at the top of modules. The classes of a module have different names, and so have its configuration interfaces, but
an interface may be called like a class beside it. -/

namespace AmbientDecls

open Emit

namespace ClassDecl

variable (d : ClassDecl)

def interfaceName? : Option String := d.config.map ConfigInterface.name

/-- The names that a class declares beside others: that of its interface, if it has one, and its own. -/
def identifiers : List String := d.interfaceName?.toList ++ [d.name]

end ClassDecl

namespace ModuleDecl

variable (m : ModuleDecl)

def classNames : List String := m.classes.map ClassDecl.name

def interfaceNames : List String := m.classes.filterMap ClassDecl.interfaceName?

/-- All names that are declared at the top of a module. -/
def identifiers : List String := m.classes.flatMap ClassDecl.identifiers

theorem perm_identifiers : m.identifiers.Perm (m.interfaceNames ++ m.classNames) := by
  have hinterfaces : m.interfaceNames = m.classes.flatMap fun d => d.interfaceName?.toList :=
    List.filterMap_eq_flatMap_toList _ _
  have hclasses : m.classNames = m.classes.flatMap fun d => [d.name] := List.map_eq_flatMap
  rw [hinterfaces, hclasses]
  exact (List.flatMap_append_perm m.classes _ _).symm

end ModuleDecl

namespace Emitter

variable (e : Emitter) (m : Module) (s : EmitState)

theorem interfaceName?_classDecl (c : ClassRef) : ((e.classDecl c).run s).1.interfaceName? =
    if e.registry.emitsConstructor c then some c.configName else none := by
  unfold ClassDecl.interfaceName?
  cases hemits : e.registry.emitsConstructor c with
  | true =>
    rw [config_classDecl c s e hemits]
    rfl
  | false =>
    rw [config_classDecl_eq_none s e hemits]
    rfl

theorem classNames_moduleDecl :
    ((e.moduleDecl m).run s).1.classNames = m.classes.map fun c => c.baseName := by
  rw [ModuleDecl.classNames, e.classes_moduleDecl, List.map_map]
  refine List.map_congr_left fun c _ => ?_
  obtain ⟨config, members, hshape⟩ := e.exists_run_classDecl c ⟨some (e.scopeOf m), []⟩
  rw [Function.comp_apply, hshape]

theorem interfaceNames_moduleDecl : ((e.moduleDecl m).run s).1.interfaceNames =
    (m.classes.filter e.registry.emitsConstructor).map fun c => c.configName := by
  have hname : (ClassDecl.interfaceName? ∘ fun c => ((e.classDecl c).run ⟨some (e.scopeOf m), []⟩).1) =
      fun c => if e.registry.emitsConstructor c then some c.configName else none :=
    funext fun c => e.interfaceName?_classDecl _ c
  rw [ModuleDecl.interfaceNames, e.classes_moduleDecl, List.filterMap_map, hname]
  induction m.classes with
  | nil => rfl
  | cons c classes ih =>
    rw [List.filterMap_cons, List.filter_cons, ih]
    cases e.registry.emitsConstructor c <;> rfl

end Emitter

/-! A class with a constructor, one that is called like its interface, and one that is not. -/

def exampleBox : ClassRecord := { name := "Ext.Box", members := [exampleConstructor false] }

def exampleBoxConfig : ClassRecord := { name := "Ext.BoxConfig" }

def exampleLid : ClassRecord := { name := "Ext.Lid" }

namespace Registry

variable {records : List ClassRecord}

/-- Classes of one module with one base name have one name, unless it begins with its last dot. -/
theorem name_eq_of_baseName_eq {c d : ClassRecord} (hc : c.name.toList.head? ≠ some '.')
    (hd : d.name.toList.head? ≠ some '.') (hmodule : c.moduleName = d.moduleName)
    (hbase : c.baseName = d.baseName) : c.name = d.name := by
  have hspelled : ∀ {c : ClassRecord}, c.name.toList.head? ≠ some '.' → c.spelledName = c.name := by
    intro c hc
    refine c.spelledName_eq_name_iff.mpr ?_
    rintro ⟨s, hs, _⟩
    rw [hs] at hc
    exact hc rfl
  rw [← hspelled hc, ← hspelled hd, ClassRecord.spelledName, ClassRecord.spelledName, hmodule, hbase]

theorem nodup_baseNames (hnames : (records.map fun c => c.name).Nodup)
    (hdots : ∀ c ∈ records, c.name.toList.head? ≠ some '.') {m : Module} (hm : m ∈ (ofRecords records).modules) :
    (m.classes.map fun c => c.baseName).Nodup := by
  have hmap := map_record_placed records
  have hrecord : ∀ c ∈ placed records, c.toClassRecord ∈ records := by
    intro c hc
    rw [← hmap]
    exact List.mem_map_of_mem hc
  have hdistinct : ((placed records).map fun c => c.name).Nodup := by
    rw [← hmap, List.map_map] at hnames
    exact hnames
  rw [(mem_modules_iff.mp hm).2]
  refine List.Nodup.map_on ?_ ((nodup_classes records).filter _)
  intro c hc d hd hbase
  obtain ⟨hc, hcm⟩ := List.mem_filter.mp hc
  obtain ⟨hd, hdm⟩ := List.mem_filter.mp hd
  refine List.inj_on_of_nodup_map hdistinct hc hd ?_
  exact name_eq_of_baseName_eq (hdots _ (hrecord c hc)) (hdots _ (hrecord d hd))
    ((of_decide_eq_true hcm).trans (of_decide_eq_true hdm).symm) hbase

theorem nodup_configNames {classes : List ClassRef} (h : (classes.map fun c => c.baseName).Nodup)
    (p : ClassRef → Bool) : ((classes.filter p).map fun c => c.configName).Nodup := by
  have hnames : (fun c : ClassRef => c.configName) = (· ++ "Config") ∘ fun c : ClassRef => c.baseName := rfl
  rw [hnames, ← List.map_map]
  refine (h.sublist (List.filter_sublist.map _)).map fun s t hst => ?_
  exact (String.append_left_inj _).mp hst

/-- The classes of a module are declared under different names, and so are its interfaces. So all names at the top of the
module are different, unless a class is called like the interface of a class with a constructor beside it. -/
theorem identifiers_distinct_iff (hnames : (records.map fun c => c.name).Nodup)
    (hdots : ∀ c ∈ records, c.name.toList.head? ≠ some '.') (config : EmitterConfig) (s : EmitState) :
    let r := ofRecords records
    let e : Emitter := ⟨r, config⟩
    ∀ m ∈ r.modules,
      let d := ((e.moduleDecl m).run s).1
      d.classNames = m.classes.map (fun c => c.baseName) ∧
      d.interfaceNames = (m.classes.filter r.emitsConstructor).map (fun c => c.configName) ∧
      d.classNames.Nodup ∧ d.interfaceNames.Nodup ∧
      (d.identifiers.Nodup ↔ ∀ c ∈ m.classes, r.emitsConstructor c = true →
        ∀ b ∈ m.classes, b.baseName ≠ c.configName) := by
  intro r e m hm d
  have hclasses : d.classNames = m.classes.map fun c => c.baseName := e.classNames_moduleDecl m s
  have hinterfaces : d.interfaceNames = (m.classes.filter r.emitsConstructor).map fun c => c.configName :=
    e.interfaceNames_moduleDecl m s
  have hbases := nodup_baseNames hnames hdots hm
  have hconfigs := nodup_configNames hbases r.emitsConstructor
  rw [d.perm_identifiers.nodup_iff, List.nodup_append', hclasses, hinterfaces]
  refine ⟨rfl, rfl, hbases, hconfigs, ?_⟩
  constructor
  · rintro ⟨_, _, hdisjoint⟩ c hc hemits b hb heq
    exact hdisjoint (List.mem_map_of_mem (List.mem_filter.mpr ⟨hc, hemits⟩)) (heq ▸ List.mem_map_of_mem hb)
  · intro h
    refine ⟨hconfigs, hbases, fun name hinterface hclass => ?_⟩
    obtain ⟨c, hc, rfl⟩ := List.mem_map.mp hinterface
    obtain ⟨b, hb, heq⟩ := List.mem_map.mp hclass
    obtain ⟨hc, hemits⟩ := List.mem_filter.mp hc
    exact h c hc hemits b hb heq

theorem identifiers_distinct_iff_exampleLid :
    let r := ofRecords [exampleBox, exampleLid]
    let m : Module := ⟨"Ext", r.classes.filter fun c => c.moduleName = "Ext"⟩
    let d := (((⟨r, {}⟩ : Emitter).moduleDecl m).run {}).1
    m ∈ r.modules ∧ d.identifiers = ["BoxConfig", "Box", "Lid"] ∧ d.identifiers.Nodup := by
  intro r m d
  have hm : m ∈ r.modules := mem_modules_iff.mpr ⟨by decide +kernel, rfl⟩
  have hnames : ([exampleBox, exampleLid].map fun c => c.name).Nodup := by decide +kernel
  obtain ⟨_, _, _, _, hiff⟩ := identifiers_distinct_iff hnames (by decide +kernel) {} {} m hm
  exact ⟨hm, by decide +kernel, hiff.mpr (by decide +kernel)⟩

/-- The interface of a class and a class beside it are declared under one name. -/
theorem interface_called_like_class :
    let records := [exampleBox, exampleBoxConfig]
    let r := ofRecords records
    (records.map fun c => c.name).Nodup ∧ (∀ c ∈ records, c.name.toList.head? ≠ some '.') ∧
    ∃ m ∈ r.modules,
      let d := (((⟨r, {}⟩ : Emitter).moduleDecl m).run {}).1
      d.identifiers = ["BoxConfig", "Box", "BoxConfig"] ∧ ¬ d.identifiers.Nodup := by
  decide +kernel

end Registry
end AmbientDecls
