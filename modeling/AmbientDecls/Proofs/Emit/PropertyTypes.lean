import AmbientDecls.Proofs.Emit.Body
import AmbientDecls.Proofs.Types.Appended
import AmbientDecls.Proofs.Types.Unfolding

/-! The types of properties. A property takes in the type of the option of its name, so what it shows is the converted type of
the option and then its own, each alternative as it is converted alone. -/

namespace AmbientDecls

open Relation

variable {c : ClassRef} {m : Member}

/-- What is found among options is an option. -/
theorem Registry.exists_optionType {r : Registry} {name : String} {side : Option Bool} {o : Member}
    (h : r.member? c name (some [.config]) side = some o) : ∃ t, Emitter.optionType? o = some t := by
  obtain ⟨p, hp, rfl⟩ := Option.map_eq_some_iff.mp h
  unfold placedMember? at hp
  have hfound := List.find?_some hp
  obtain ⟨hkind, _⟩ := Bool.and_eq_true_iff.mp hfound
  cases hbody : p.2.body with
  | config t optional required => exact ⟨t, by rw [Emitter.optionType?, hbody]⟩
  | property t optional => simp [Member.kind, hbody] at hkind
  | method params returns => simp [Member.kind, hbody] at hkind

namespace Emitter

variable (e : Emitter)

theorem propertyType_of_option (hsingle : c.singleton = false) {o : Member} {t : String}
    (ho : e.registry.member? c m.name (some [.config]) none = some o) (ht : optionType? o = some t)
    (type : String) : e.propertyType c m type = t ++ "|" ++ type := by
  rw [propertyType, ho, Option.bind_some, ht]
  exact if_neg (Bool.eq_false_iff.mp hsingle)

/-- A property that is declared shows its type as it is converted, and leaves the state of the conversion. -/
theorem run_member_of_property {type : String} {optional : Bool} (hbody : m.body = .property type optional)
    (hdeclares : e.declares c m = true) (s : EmitState) :
    let converted := (convert e.registry (e.propertyType c m type) none).run s
    (e.member c m).run s = (some (e.declare c m (.property optional converted.1)), converted.2) := by
  intro converted
  obtain ⟨hshould, hstays⟩ := Bool.and_eq_true_iff.mp hdeclares
  rw [yields, hbody, Bool.not_eq_true'] at hstays
  unfold member signature?
  simp only [hshould, hbody, hstays, Bool.false_eq_true, if_true, if_false]
  rfl

end Emitter

/-! A class with an option and a property of one name. -/

def exampleReading : Member := { name := "mode", body := .property "Date | Ext.Missing" true }

def exampleGauge : ClassRecord :=
  { name := "Ext.Gauge",
    members := [exampleReading, { name := "mode", body := .config "Ext.Setting/Date[]" false false }] }

theorem acyclic_exampleGauge :
    ∀ b, ¬ TransGen (Registry.ofRecords [exampleSwitch, exampleSetting, exampleGauge]).Behind b b :=
  acyclic_of_rank String.length (by decide +kernel)

/-- Conversion goes on to the end, and a type that is joined of two is converted into what they are converted into one after the
other. So a property of a class that is no single object shows the type of the option of its name and then its own. -/
theorem Registry.alternatives_appended (records : List ClassRecord)
    (hacyclic : ∀ b, ¬ TransGen (ofRecords records).Behind b b) (config : EmitterConfig) :
    let r := ofRecords records
    let e : Emitter := ⟨r, config⟩
    (∀ type more, convertPlain r (r.typeFuel + more) type = convert r type none) ∧
    (∀ (a b type : String) (sep : Char) (s : EmitState), Slot.isSeparator sep = true →
      type.toList.filter (· != ' ') = (a.toList ++ sep :: b.toList).filter (· != ' ') →
      r.ConvertsInTurn a b s ((convert r type none).run s).1 ((convert r type none).run s).2) ∧
    ∀ (c : ClassRef) (m o : Member) (type : String) (optional : Bool) (s : EmitState),
      m.body = .property type optional → c.singleton = false →
      r.member? c m.name (some [.config]) none = some o →
      ∃ optionType, Emitter.optionType? o = some optionType ∧
        (((e.member c m).run s).1.isSome = true ↔
          r.shouldEmit c m = true ∧ e.has c m .method = false) ∧
        ∀ d, ((e.member c m).run s).1 = some d → ∃ text,
          d = e.declare c m (.property optional text) ∧
          r.ConvertsInTurn optionType type s text ((e.member c m).run s).2 := by
  intro r e
  refine ⟨convertPlain_typeFuel hacyclic, fun a b type sep s hsep htype => convertsInTurn r hsep htype s, ?_⟩
  intro c m o type optional s hbody hsingle ho
  obtain ⟨optionType, hoption⟩ := exists_optionType ho
  refine ⟨optionType, hoption, ?_, fun d hd => ?_⟩
  · rw [e.isSome_member, Emitter.declares, Emitter.yields, hbody, Bool.and_eq_true_iff, Bool.not_eq_true']
  · have hdeclares : e.declares c m = true := by
      rw [← e.isSome_member c m s, hd]
      rfl
    rw [e.run_member_of_property hbody hdeclares,
      e.propertyType_of_option hsingle ho hoption] at hd ⊢
    have hbar : Slot.isSeparator '|' = true := rfl
    refine ⟨_, (Option.some.inj hd).symm, convertsInTurn r hbar ?_ s⟩
    rw [String.toList_append, String.toList_append, List.append_assoc]
    rfl

theorem Registry.alternatives_appended_exampleGauge :
    let r := ofRecords [exampleSwitch, exampleSetting, exampleGauge]
    let e : Emitter := ⟨r, {}⟩
    let c : ClassRef := ⟨exampleGauge, some 2⟩
    let s : EmitState := ⟨some ⟨["Date"], "__", []⟩, []⟩
    (∀ b, ¬ TransGen r.Behind b b) ∧
    ((e.member c exampleReading).run s).1 = some (e.declare c exampleReading
      (.property true "'on'|'off'|number|__Date[]|__Date|any")) ∧
    ((convert r "Ext. Setting[] / |Date" none).run s).1 = "('on'|'off'|number)[]|any|__Date" := by
  intro r e c s
  obtain ⟨_, hconvert, hmember⟩ := alternatives_appended _ acyclic_exampleGauge {}
  refine ⟨acyclic_exampleGauge, ?_, ?_⟩
  · obtain ⟨optionType, hoption, hsome, htext⟩ := hmember c exampleReading
      { name := "mode", body := .config "Ext.Setting/Date[]" false false } _ true s rfl rfl rfl
    obtain rfl : "Ext.Setting/Date[]" = optionType := Option.some.inj hoption
    obtain ⟨d, hd⟩ := Option.isSome_iff_exists.mp (hsome.mpr (by decide +kernel))
    obtain ⟨text, rfl, hturn⟩ := htext d hd
    have hparts : text = "'on'|'off'|number|__Date[]|__Date|any" :=
      hturn.text_eq.trans (by decide +kernel)
    rw [hd, hparts]
  · have hturn := hconvert "Ext.Setting[]" "|Date" "Ext. Setting[] / |Date" '/' s rfl (by decide)
    exact hturn.text_eq.trans (by decide +kernel)

end AmbientDecls
