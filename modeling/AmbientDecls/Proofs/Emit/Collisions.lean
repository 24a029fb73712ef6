import AmbientDecls.Proofs.Emit.Inheritance

/-! What is left of a name when a member gives way to another kind. Which kind wins is decided by all members of the
name, hidden ones and those of the other side included, so the name may be gone: it stays exactly if a visible
member of the winning kind is documented on the same side. -/

namespace AmbientDecls

namespace ClassRecord

variable {c : ClassRecord}

/-- The kind that properties and options of a name give way to. -/
def winner (c : ClassRecord) (name : String) : MemberKind :=
  if c.documents name .method then .method else .property

theorem documents_of_mem {k : Member} (hk : k ∈ c.members) : c.documents k.name k.kind = true :=
  List.any_eq_true.mpr ⟨k, hk, by simp⟩

/-- Beside a member that gives way, those of the winning kind are all that do not. -/
theorem givesWay_eq_false_iff_winner {m k : Member} (hm : c.givesWay m = true)
    (hsingle : m.kind = .config → c.singleton = false) (hk : k ∈ c.members)
    (hname : k.name = m.name) : c.givesWay k = false ↔ k.kind = c.winner m.name := by
  have hdocuments := documents_of_mem hk
  rw [hname] at hdocuments
  unfold winner
  unfold givesWay at hm ⊢
  rw [hname]
  cases hmethod : c.documents m.name .method with
  | true => cases hkind : k.kind <;> simp
  | false =>
    -- without a method only an option can give way, and it does so to a property
    have hproperty : c.documents m.name .property = true := by
      cases hkind : m.kind with
      | property => simp [hkind, hmethod] at hm
      | method => simp [hkind] at hm
      | config => simpa [hkind, hmethod, hsingle hkind] using hm
    cases hkind : k.kind with
    | property => simp
    | config => simp [hproperty]
    | method => exact absurd (hmethod.symm.trans (hkind ▸ hdocuments)) (by simp)

end ClassRecord

namespace Emitter

variable {records : List ClassRecord} {c : ClassRef} {m : Member}

theorem givesWay_of_member_eq_none (config : EmitterConfig)
    (hc : (Registry.ofRecords records).Proper c)
    (hshould : (Registry.ofRecords records).shouldEmit c m = true) {s : EmitState}
    (hnone : (((⟨Registry.ofRecords records, config⟩ : Emitter).member c m).run s).1 = none) :
    c.givesWay m = true := by
  have hentry := map_member ⟨Registry.ofRecords records, config⟩ c m s
  rw [hnone, declares, hshould, yields_eq config hc] at hentry
  cases hgives : c.givesWay m with
  | true => rfl
  | false => simp [hgives] at hentry

end Emitter

/-! An option that gives way to a hidden property, without and with a visible one behind it. -/

def exampleOption : Member := { name := "foo", body := .config "String" false false }

def hidingForm : ClassRecord :=
  { name := "Ext.Form", members := [exampleOption, exampleProperty true] }

def showingForm : ClassRecord :=
  { name := "Ext.Form", members := [exampleOption, exampleProperty true, exampleProperty false] }

namespace Registry

variable {records : List ClassRecord} {c : ClassRef}

/-- A property or an option that gives way keeps its name in the class exactly if the class shows a member of the
winning kind on the same side; on a single object a constructor does not count. -/
theorem replaced_iff (config : EmitterConfig) (hc : (ofRecords records).Proper c) {m : Member}
    (hkind : m.kind = .property ∨ m.kind = .config ∧ c.singleton = false)
    (hshould : (ofRecords records).shouldEmit c m = true) (s t : EmitState) :
    let e : Emitter := ⟨ofRecords records, config⟩
    ((e.member c m).run s).1 = none →
    ((∃ d ∈ ((e.classDecl c).run t).1.members, d.key = Emitter.memberKey c m) ↔
      ∃ k ∈ c.members, k.name = m.name ∧ k.isStatic = m.isStatic ∧ k.kind = c.winner m.name ∧
        c.shows k = true ∧ (c.singleton = true → k.isConstructor = false)) := by
  intro e hnone
  have hgives := Emitter.givesWay_of_member_eq_none config hc hshould hnone
  have hplain : m.isConstructor = false := by
    rcases hkind with hkind | ⟨hkind, _⟩ <;> simp [Member.isConstructor, hkind]
  have hsingle : m.kind = .config → c.singleton = false := by
    intro hconfig
    rcases hkind with hkind | ⟨_, hsingle⟩
    · exact absurd (hconfig.symm.trans hkind) (by decide)
    · exact hsingle
  obtain ⟨hobject, _, hfirst⟩ := (shouldEmit_iff m).mp hshould
  -- as the member itself is not left out, no ancestor keeps others of its name and side from being declared
  have habove := hfirst.resolve_left (by simp [hplain])
  rw [Emitter.memberKey, Emitter.exists_declaration_iff config hc]
  constructor
  · rintro ⟨k, hk, hname, hside, hkobject, hshows, hkgives, _⟩
    have hstatic : k.isStatic = m.isStatic := by
      cases hobj : c.singleton with
      | true => rw [(hkobject hobj).1, (hobject hobj).1]
      | false => simpa [hobj] using hside
    exact ⟨k, hk, hname, hstatic,
      (ClassRecord.givesWay_eq_false_iff_winner hgives hsingle hk hname).mp hkgives, hshows,
      fun hobj => (hkobject hobj).2⟩
  · rintro ⟨k, hk, hname, hstatic, hwinner, hshows, hctor⟩
    refine ⟨k, hk, hname, by rw [hstatic], fun hobj => ⟨?_, hctor hobj⟩, hshows, ?_, Or.inr ?_⟩
    · rw [hstatic, (hobject hobj).1]
    · exact (ClassRecord.givesWay_eq_false_iff_winner hgives hsingle hk hname).mpr hwinner
    · rw [hstatic]
      exact habove

theorem replaced_iff_showingForm :
    let r := ofRecords [showingForm]
    let e : Emitter := ⟨r, {}⟩
    let c : ClassRef := ⟨showingForm, some 0⟩
    (r.Proper c ∧ exampleOption.kind = .config ∧ c.singleton = false ∧
      r.shouldEmit c exampleOption = true ∧ ((e.member c exampleOption).run {}).1 = none) ∧
      ∃ d ∈ ((e.classDecl c).run {}).1.members, d.key = ("foo", false) := by
  intro r e c
  have hc : r.Proper c := fun _ => List.mem_cons_self ..
  have hshould : r.shouldEmit c exampleOption = true := by decide +kernel
  have hnone : ((e.member c exampleOption).run {}).1 = none := by decide +kernel
  refine ⟨⟨hc, rfl, rfl, hshould, hnone⟩,
    (replaced_iff {} hc (Or.inr ⟨rfl, rfl⟩) hshould {} {} hnone).mpr ?_⟩
  exact ⟨exampleProperty false, List.mem_cons_of_mem _ (List.mem_cons_of_mem _
    (List.mem_cons_self ..)), rfl, rfl, by decide +kernel, rfl, fun _ => rfl⟩

/-- An option whose type a hidden property was to carry is declared nowhere. -/
theorem hidden_property_erases_option :
    let r := ofRecords [hidingForm]
    let e : Emitter := ⟨r, {}⟩
    ∃ c ∈ r.classes, c.singleton = false ∧ ∃ m ∈ c.members, m.kind = .config ∧
      r.shouldEmit c m = true ∧ ((e.member c m).run {}).1 = none ∧
      ∀ d ∈ ((e.classDecl c).run {}).1.members, d.key ≠ Emitter.memberKey c m := by
  decide +kernel

end Registry
end AmbientDecls
