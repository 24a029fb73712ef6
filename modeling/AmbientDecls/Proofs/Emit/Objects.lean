import AmbientDecls.Proofs.Emit.Constructors

/-! Classes that are single objects. Their declarations have static members only, neither a configuration interface nor a
base, and no other configuration interface has them as its base. -/

namespace AmbientDecls

namespace Emitter

variable {records : List ClassRecord} {c : ClassRef} {m : Member} {s : EmitState}

/-- What a single object declares is documented as an instance member that is public, and as no constructor and no option. -/
theorem member_of_object {config : EmitterConfig} (hc : (Registry.ofRecords records).Proper c)
    (hsingle : c.singleton = true) {d : MemberDecl}
    (h : (((⟨Registry.ofRecords records, config⟩ : Emitter).member c m).run s).1 = some d) :
    m.isStatic = false ∧ m.isConstructor = false ∧ m.isProtected = false ∧ m.kind ≠ .config := by
  have hsome := congrArg Option.isSome h
  rw [isSome_member, declares] at hsome
  obtain ⟨hshould, hyields⟩ := Bool.and_eq_true_iff.mp hsome
  obtain ⟨hobject, hshows, _⟩ := (Registry.shouldEmit_iff m).mp hshould
  obtain ⟨hside, hplain⟩ := hobject hsingle
  have hprotected : m.isProtected = false := by
    cases hp : m.isProtected with
    | false => rfl
    | true => simp [ClassRecord.shows, hp, hsingle] at hshows
  refine ⟨hside, hplain, hprotected, fun hkind => ?_⟩
  rw [yields_eq config hc, ClassRecord.givesWay, hkind] at hyields
  simp [hsingle] at hyields

theorem exists_signature_of_member {e : Emitter} {d : MemberDecl} (h : ((e.member c m).run s).1 = some d) :
    ∃ signature, ((e.signature? c m).run s).1 = some signature ∧ d = e.declare c m signature := by
  unfold member at h
  split at h
  · obtain ⟨signature, hsignature, hd⟩ := Option.map_eq_some_iff.mp h
    exact ⟨signature, hsignature, hd.symm⟩
  · cases h

/-- On a single object an option adds nothing to the type of a property. -/
theorem signature_of_object {e : Emitter} (hsingle : c.singleton = true) {type : String} {optional : Bool}
    (hbody : m.body = .property type optional) {signature : Signature}
    (h : ((e.signature? c m).run s).1 = some signature) :
    signature = .property optional ((convert e.registry type none).run s).1 := by
  have htype : e.propertyType c m type = type := by
    unfold propertyType
    split
    · exact if_pos hsingle
    · rfl
  unfold signature? at h
  rw [hbody] at h
  simp only [htype] at h
  split at h
  · cases h
  · exact (Option.some.inj h).symm

/-- A class without an interface and a base prints neither. -/
theorem render_of_object {d : ClassDecl} (hconfig : d.config = none) (hbase : d.base = none) :
    d.render = d.doc ++ "\n" ++ (if d.exported then "export class " else "declare class ") ++ d.name ++
      " \x7b\n" ++ endLine ("\n".intercalate (d.members.map fun m => indent m.render)) ++ "\x7d" := by
  rw [ClassDecl.render, hconfig, hbase, extendsClause]
  simp

theorem configBase_not_object {c' b : ClassRef} (h : (Registry.ofRecords records).configBase? c' = some b) :
    b.singleton = false := by
  obtain ⟨hancestor, hemits⟩ := Registry.mem_of_configBase? h
  exact ((Registry.emitsConstructor_iff (Registry.proper_of_mem_ancestors hancestor)).mp hemits).1

theorem base_of_interface {config : EmitterConfig} {c' : ClassRef} {t : EmitState} {i : ConfigInterface}
    (h : (((⟨Registry.ofRecords records, config⟩ : Emitter).classDecl c').run t).1.config = some i) :
    i.base = ((Registry.ofRecords records).configBase? c').map fun b => b.qualifiedConfigName := by
  cases hemits : (Registry.ofRecords records).emitsConstructor c' with
  | true =>
    rw [config_classDecl c' t ⟨Registry.ofRecords records, config⟩ hemits] at h
    obtain rfl := Option.some.inj h
    exact (configInterface_fields config c' t).1
  | false =>
    rw [config_classDecl_eq_none t ⟨Registry.ofRecords records, config⟩ hemits] at h
    cases h

/-- The declaration of a single object has no configuration interface and no base. All its members are static, though none is
documented as static, as protected, as a constructor or as an option, and properties have their own types. No
configuration interface has the object as its base. -/
theorem singleton_surface (config : EmitterConfig) (hc : (Registry.ofRecords records).Proper c)
    (hsingle : c.singleton = true) (s : EmitState) :
    let e : Emitter := ⟨Registry.ofRecords records, config⟩
    let d := ((e.classDecl c).run s).1
    (d.config = none ∧ d.base = none ∧
      d.render = d.doc ++ "\n" ++ (if d.exported then "export class " else "declare class ") ++ d.name ++
        " \x7b\n" ++ endLine ("\n".intercalate (d.members.map fun x => indent x.render)) ++ "\x7d") ∧
    (∀ x ∈ d.members,
      x.render = x.doc ++ "\n" ++ "static " ++ quoteProperty x.name ++ x.signature.render ∧
      ∃ m ∈ c.members, ((e.member c m).run s).1 = some x) ∧
    (∀ m x, ((e.member c m).run s).1 = some x →
      m.isStatic = false ∧ m.isConstructor = false ∧ m.isProtected = false ∧ m.kind ≠ .config ∧
        ∀ type optional, m.body = .property type optional →
          x.signature = .property optional ((convert e.registry type none).run s).1) ∧
    ∀ c' t i, ((e.classDecl c').run t).1.config = some i →
      ∃ base, i.base = base.map (fun b : ClassRef => b.qualifiedConfigName) ∧
        base = e.registry.configBase? c' ∧ base ≠ some c := by
  intro e d
  have hconfig : d.config = none := by
    refine config_classDecl_eq_none s e (Bool.eq_false_iff.mpr fun hemits => ?_)
    exact absurd (((Registry.emitsConstructor_iff hc).mp hemits).1.symm.trans hsingle) Bool.false_ne_true
  have hbase : d.base = none := (base_classDecl e c s).trans (if_pos hsingle)
  refine ⟨⟨hconfig, hbase, render_of_object hconfig hbase⟩, fun x hx => ?_, fun m x hx => ?_,
    fun c' t i hi => ⟨_, base_of_interface hi, rfl, fun hobject => ?_⟩⟩
  · obtain ⟨m, hm, htext⟩ := exists_text_of_mem_classDecl hx
    have hstatic : x.isStatic = true := by
      have hside : x.isStatic = (c.singleton || m.isStatic) := congrArg Prod.snd (key_member htext)
      rw [hside, hsingle, Bool.true_or]
    exact ⟨by rw [MemberDecl.render, if_pos hstatic], m, hm, htext⟩
  · obtain ⟨hside, hplain, hprotected, hkind⟩ := member_of_object hc hsingle hx
    refine ⟨hside, hplain, hprotected, hkind, fun type optional hbody => ?_⟩
    obtain ⟨signature, hsignature, rfl⟩ := exists_signature_of_member hx
    exact signature_of_object hsingle hbody hsignature
  · exact absurd ((configBase_not_object hobject).symm.trans hsingle) Bool.false_ne_true

end Emitter

/-! A single object that documents members of every sort, between a class and a subclass with constructors. -/

def exampleSettings : ClassRecord :=
  { name := "Ext.Settings", parent := "Ext.Base", singleton := true,
    members := [exampleConstructor false, { name := "size", body := .config "String" false false },
      { name := "size", body := .property "Number" true },
      { name := "count", isStatic := true, body := .property "Number" false },
      { name := "reset", isProtected := true, body := .method [] none }] }

def exampleUserSettings : ClassRecord :=
  { name := "Ext.UserSettings", parent := "Ext.Settings", members := [exampleConstructor false] }

def exampleSettingsFile : List ClassRecord :=
  [{ name := "Ext.Base", members := [exampleConstructor false] }, exampleSettings, exampleUserSettings]

namespace Emitter

theorem singleton_surface_exampleSettings :
    let c : ClassRef := ⟨exampleSettings, some 1⟩
    let c' : ClassRef := ⟨exampleUserSettings, some 2⟩
    let m : Member := { name := "size", body := .property "Number" true }
    ((Registry.ofRecords exampleSettingsFile).Proper c ∧ c.singleton = true) ∧
    (((⟨Registry.ofRecords exampleSettingsFile, {}⟩ : Emitter).classDecl c).run {}).1.config = none ∧
    (((⟨Registry.ofRecords exampleSettingsFile, {}⟩ : Emitter).classDecl c).run {}).1.base = none ∧
    (((⟨Registry.ofRecords exampleSettingsFile, {}⟩ : Emitter).classDecl c).run {}).1.members.map
      MemberDecl.key = [("size", true)] ∧
    (∀ x, (((⟨Registry.ofRecords exampleSettingsFile, {}⟩ : Emitter).member c m).run {}).1 = some x →
      x.signature = .property true "number") ∧
    ∃ i, (((⟨Registry.ofRecords exampleSettingsFile, {}⟩ : Emitter).classDecl c').run {}).1.config =
      some i ∧ i.base = some "Ext.BaseConfig" := by
  intro c c' m
  have hc : (Registry.ofRecords exampleSettingsFile).Proper c :=
    fun _ => List.mem_cons_of_mem _ (List.mem_cons_self ..)
  obtain ⟨⟨hconfig, hbase, _⟩, _, htype, hinterface⟩ := singleton_surface {} hc rfl {}
  refine ⟨⟨hc, rfl⟩, hconfig, hbase, by decide +kernel, fun x hx => ?_, ?_⟩
  · obtain ⟨_, _, _, _, hproperty⟩ := htype m x hx
    rw [hproperty "Number" true rfl]
    decide +kernel
  · have hsome : (((⟨Registry.ofRecords exampleSettingsFile, {}⟩ : Emitter).classDecl c').run
        {}).1.config.isSome = true := by
      decide +kernel
    obtain ⟨i, hi⟩ := Option.isSome_iff_exists.mp hsome
    obtain ⟨base, hibase, hconfigBase, _⟩ := hinterface c' {} i hi
    refine ⟨i, hi, ?_⟩
    rw [hibase, hconfigBase]
    decide +kernel

end Emitter
end AmbientDecls
