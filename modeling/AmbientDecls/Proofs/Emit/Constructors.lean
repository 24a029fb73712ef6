import AmbientDecls.Proofs.Emit.Accounts
import AmbientDecls.Proofs.Emit.Options

/-! Constructors and the configuration interfaces they refer to. A body declares a constructor if any visible one is
documented, but the interface is made for the first documented one alone, so it is missing where that one is hidden. -/

namespace AmbientDecls

theorem paramName_eq_configParam {name : String} : paramName name = configParam ↔ name = configParam := by
  constructor
  · intro h
    unfold paramName at h
    split at h
    · -- a reserved word comes out with an underscore at its end
      have hlast := congrArg (fun s : String => s.toList.getLast?) h
      simp [configParam, String.toList_append] at hlast
    · exact h
  · rintro rfl
    decide

/-- A parameter that is called like the configuration has the type that is meant for it. -/
theorem ParamList.type_of_build {l : ParamList} {t : String} (ht : l.config = some t) (ps : List Param)
    (seen : List String) (optional : Bool) (s : EmitState) :
    ∀ q ∈ ((l.build ps seen optional).run s).1, q.name = configParam → q.rest = false → q.type = t := by
  induction ps generalizing seen optional s with
  | nil => exact fun _ hq => absurd hq List.not_mem_nil
  | cons p ps ih =>
    unfold build
    simp only
    by_cases hseen : seen.contains (paramName p.name) = true
    · rw [if_pos hseen]
      exact ih seen optional _
    · rw [if_neg hseen]
      cases restElement? p.type with
      | some element =>
        simp only
        split
        · exact fun q hq _ hrest => absurd (List.mem_singleton.mp hq ▸ hrest) (by simp)
        · exact fun q hq _ hrest => absurd (List.mem_singleton.mp hq ▸ hrest) (by simp)
      | none =>
        intro q hq hname hrest
        by_cases hparam : p.name = configParam
        · simp only [hparam, if_true, ht] at hq
          rcases List.mem_cons.mp hq with rfl | hq
          · rfl
          · exact ih _ _ _ q hq hname hrest
        · simp only [hparam, if_false] at hq
          rcases List.mem_cons.mp hq with rfl | hq
          · exact absurd (paramName_eq_configParam.mp hname) hparam
          · exact ih _ _ _ q hq hname hrest

namespace Emitter

variable {records : List ClassRecord} (config : EmitterConfig) {c : ClassRef} (s : EmitState)

theorem config_classDecl_eq_none (e : Emitter) (h : e.registry.emitsConstructor c = false) :
    ((e.classDecl c).run s).1.config = none := by
  unfold classDecl
  rw [if_neg (by simp [h])]
  rfl

theorem isSome_config_classDecl (hc : (Registry.ofRecords records).Proper c) :
    (((⟨Registry.ofRecords records, config⟩ : Emitter).classDecl c).run s).1.config.isSome = true ↔
      c.singleton = false ∧ ∃ m, c.constructor? = some m ∧ c.shows m = true := by
  rw [← Registry.emitsConstructor_iff hc]
  cases hemits : (Registry.ofRecords records).emitsConstructor c with
  | true => simp [config_classDecl c s ⟨Registry.ofRecords records, config⟩ hemits]
  | false => simp [config_classDecl_eq_none s ⟨Registry.ofRecords records, config⟩ hemits]

theorem exists_constructor_iff (hc : (Registry.ofRecords records).Proper c) :
    (∃ d ∈ (((⟨Registry.ofRecords records, config⟩ : Emitter).classDecl c).run s).1.members,
      d.isConstructor = true) ↔
    c.singleton = false ∧ ∃ m ∈ c.members, m.isConstructor = true ∧ c.shows m = true := by
  constructor
  · rintro ⟨d, hd, hctor⟩
    obtain ⟨m, hm, hdeclares, _, hmctor⟩ := exists_member_of_mem_classDecl _ c s hd
    obtain ⟨hobject, hshows, _⟩ := (Registry.shouldEmit_iff m).mp (Bool.and_eq_true_iff.mp hdeclares).1
    rw [hctor] at hmctor
    refine ⟨?_, m, hm, hmctor.symm, hshows⟩
    cases hsingle : c.singleton with
    | false => rfl
    | true => exact absurd (hmctor.trans (hobject hsingle).2) (by simp)
  · rintro ⟨hsingle, m, hm, hctor, hshows⟩
    have hmethod : m.kind = .method := eq_of_beq (Bool.and_eq_true_iff.mp hctor).1
    have hdeclares : (⟨Registry.ofRecords records, config⟩ : Emitter).declares c m = true := by
      refine Bool.and_eq_true_iff.mpr ⟨?_, ?_⟩
      · exact (Registry.shouldEmit_iff m).mpr ⟨by simp [hsingle], hshows, Or.inl hctor⟩
      · rw [yields_eq config hc, ClassRecord.givesWay, hmethod]
        rfl
    obtain ⟨d, hd, hkey⟩ := (exists_key_classDecl _ c s).mpr ⟨m, hm, hdeclares, rfl⟩
    refine ⟨d, hd, ?_⟩
    -- nothing but a constructor is declared under the name of one
    obtain ⟨k, hk, hkdeclares, hkkey, hkctor⟩ := exists_member_of_mem_classDecl _ c s hd
    rw [hkctor]
    by_contra hplain
    have hname : k.name = m.name := congrArg Prod.fst (hkkey.symm.trans hkey)
    have hyields := (Bool.and_eq_true_iff.mp hkdeclares).2
    rw [yields_eq config hc, ClassRecord.givesWay_of_constructor hm hctor hname (by simpa using hplain)]
      at hyields
    cases hyields

variable (e : Emitter)

theorem parameters_of_member {m : Member} {d : MemberDecl} {ps : List Parameter}
    (h : ((e.member c m).run s).1 = some d) (hsignature : d.signature = .method ps none) :
    m.isConstructor = true ∧ ∃ params t, ps = ((e.parameters c m params).run t).1 := by
  have hentry := e.map_member c m s
  rw [h] at hentry
  have hctor : m.isConstructor = true := by
    split at hentry
    · have hentry := congrArg Prod.snd (Option.some.inj hentry)
      rw [MemberDecl.entry, MemberDecl.isConstructor, hsignature] at hentry
      exact hentry.symm
    · cases hentry
  refine ⟨hctor, ?_⟩
  obtain ⟨hkind, _⟩ := Bool.and_eq_true_iff.mp hctor
  unfold member at h
  split at h
  · cases hbody : m.body with
    | property type optional => simp [Member.kind, hbody] at hkind
    | config type optional required => simp [Member.kind, hbody] at hkind
    | method params returns =>
      refine ⟨params, s, ?_⟩
      unfold signature? at h
      rw [hbody] at h
      simp only [hctor, if_true] at h
      obtain rfl := Option.some.inj h
      exact (Signature.method.inj hsignature).1.symm
  · cases h

/-- A parameter of a constructor that is called like the configuration has the interface of its class as its type. -/
theorem config_parameter_type {m : MemberDecl} (hm : m ∈ ((e.classDecl c).run s).1.members)
    {ps : List Parameter} (hsignature : m.signature = .method ps none) :
    ∀ p ∈ ps, p.name = configParam → p.rest = false → p.type = c.configName := by
  obtain ⟨k, _, hk⟩ := exists_text_of_mem_classDecl hm
  obtain ⟨hctor, params, v, rfl⟩ := e.parameters_of_member s hk hsignature
  exact ParamList.type_of_build (if_pos hctor) params [] false v

end Emitter

/-! A class with a public constructor and a private one, in either order. -/

def configuredConstructor (isPrivate : Bool) : Member :=
  { name := "constructor", isPrivate := isPrivate, body := .method [{ name := "config" }] none }

def hiddenFirstMaker : ClassRecord :=
  { name := "Ext.Foo", members := [configuredConstructor true, configuredConstructor false] }

def shownFirstMaker : ClassRecord :=
  { name := "Ext.Foo", members := [configuredConstructor false, configuredConstructor true] }

namespace Registry

variable {records : List ClassRecord} {c : ClassRef}

/-- The interface of a class is there exactly if a constructor is declared, unless the class is no single object, shows a
constructor and hides the first one it documents: then it declares a constructor and has no interface. An interface
never stands without a constructor, and it has the name that the parameters of constructors refer to. -/
theorem interface_iff_constructor_iff (config : EmitterConfig) (hc : (ofRecords records).Proper c)
    (s : EmitState) :
    let d := (((⟨ofRecords records, config⟩ : Emitter).classDecl c).run s).1
    ((d.config.isSome = true ↔ ∃ m ∈ d.members, m.isConstructor = true) ↔
      (c.singleton = false → (∃ m ∈ c.members, m.isConstructor = true ∧ c.shows m = true) →
        ∃ m, c.constructor? = some m ∧ c.shows m = true)) ∧
    (∀ i, d.config = some i → i.name = c.configName ∧ ∃ m ∈ d.members, m.isConstructor = true) ∧
    ∀ m ∈ d.members, ∀ ps, m.signature = .method ps none →
      ∀ p ∈ ps, p.name = configParam → p.rest = false → p.type = c.configName := by
  intro d
  have hinterface := Emitter.isSome_config_classDecl config s hc
  have hdeclared := Emitter.exists_constructor_iff config s hc
  have hdocumented : (∃ m, c.constructor? = some m ∧ c.shows m = true) →
      ∃ m ∈ c.members, m.isConstructor = true ∧ c.shows m = true := by
    rintro ⟨m, hfirst, hshows⟩
    exact ⟨m, List.mem_of_find?_eq_some hfirst, List.find?_some hfirst, hshows⟩
  refine ⟨?_, fun i hi => ?_, fun m hm ps hps => Emitter.config_parameter_type s _ hm hps⟩
  · rw [hinterface, hdeclared]
    constructor
    · exact fun hiff hsingle hshown => (hiff.mpr ⟨hsingle, hshown⟩).2
    · intro hfirst
      exact and_congr_right fun hsingle => ⟨hdocumented, hfirst hsingle⟩
  · obtain ⟨hsingle, hfirst⟩ := hinterface.mp (by rw [hi]; rfl)
    refine ⟨?_, hdeclared.mpr ⟨hsingle, hdocumented hfirst⟩⟩
    have hemits := (emitsConstructor_iff hc).mpr ⟨hsingle, hfirst⟩
    rw [Emitter.config_classDecl c s ⟨ofRecords records, config⟩ hemits] at hi
    obtain rfl := Option.some.inj hi
    rfl

theorem interface_iff_constructor_iff_shownFirstMaker :
    let r := ofRecords [shownFirstMaker]
    let c : ClassRef := ⟨shownFirstMaker, some 0⟩
    let d := (((⟨r, {}⟩ : Emitter).classDecl c).run {}).1
    r.Proper c ∧ (∃ m ∈ d.members, m.isConstructor = true) ∧ d.config.isSome = true := by
  intro r c d
  have hc : r.Proper c := fun _ => List.mem_cons_self ..
  obtain ⟨hiff, _⟩ := interface_iff_constructor_iff {} hc {}
  have hdeclared : ∃ m ∈ d.members, m.isConstructor = true := by decide +kernel
  exact ⟨hc, hdeclared, (hiff.mpr fun _ _ => ⟨configuredConstructor false, rfl, rfl⟩).mpr hdeclared⟩

/-- A public constructor behind a private one is declared with a parameter whose type is an interface that is not. -/
theorem hidden_constructor_drops_interface :
    let r := ofRecords [hiddenFirstMaker]
    let e : Emitter := ⟨r, {}⟩
    ∃ c ∈ r.classes, ((e.classDecl c).run {}).1.config = none ∧
      ∃ d ∈ ((e.classDecl c).run {}).1.members, d.isConstructor = true ∧
        d.signature = .method [⟨configParam, c.configName, false, false⟩] none := by
  decide +kernel

end Registry
end AmbientDecls
