import AmbientDecls.Proofs.Docs.Ancestors
import AmbientDecls.Proofs.Emit.Body

/-! Which documented members of a class and its ancestors end up in their declarations. What a subclass leaves out is
decided by the first member of a name and side in each ancestor; what an ancestor declares is decided by all of
them. The main statements say exactly when the two disagree. -/

namespace AmbientDecls

namespace ClassRecord

variable (c : ClassRecord)

def first? (name : String) (side : Bool) : Option Member :=
  c.members.find? fun m => m.name = name && m.isStatic == side

def showsFirst (name : String) (side : Bool) : Bool := (c.first? name side).any c.shows

/-- Whether a class documents a name in a kind, on whatever side and however visible. -/
def documents (name : String) (kind : MemberKind) : Bool :=
  c.members.any fun m => m.name = name && m.kind = kind

/-- Whether a member gives way to another kind: a method wins over a property and a property over an option, and
on a single object there are no options. -/
def givesWay (m : Member) : Bool :=
  match m.kind with
  | .property => c.documents m.name .method
  | .config => c.documents m.name .method || c.documents m.name .property || c.singleton
  | .method => false

/-- A visible member of a name on a side that does not give way to another kind. -/
def Offers (name : String) (side : Bool) (m : Member) : Prop :=
  m ∈ c.members ∧ m.name = name ∧ m.isStatic = side ∧ c.shows m = true ∧ c.givesWay m = false

variable {c} in
/-- Beside a constructor every other member of its name gives way. -/
theorem givesWay_of_constructor {m k : Member} (hk : k ∈ c.members) (hctor : k.isConstructor = true)
    (hname : m.name = k.name) (hm : m.isConstructor = false) : c.givesWay m = true := by
  obtain ⟨hkind, hkname⟩ := Bool.and_eq_true_iff.mp hctor
  have hmethod : c.documents m.name .method = true := by
    refine List.any_eq_true.mpr ⟨k, hk, ?_⟩
    simp [hname, eq_of_beq hkind]
  unfold givesWay
  cases h : m.kind with
  | property => exact hmethod
  | config => simp [hmethod]
  | method =>
    rw [Member.isConstructor, hname, hkname, h] at hm
    exact absurd hm (by decide)

end ClassRecord

namespace Registry

variable {records : List ClassRecord} {c : ClassRef}

theorem isSome_member?_kind (hc : (ofRecords records).Proper c) (name : String)
    (kind : MemberKind) :
    ((ofRecords records).member? c name (some [kind]) none).isSome = c.documents name kind := by
  rw [member?_eq hc, List.isSome_find?, ClassRecord.documents]
  congr 1
  funext m
  simp

/-- An ancestor is taken to declare a name if its first member of that name and side is visible. -/
theorem parentEmits_eq (name : String) (side : Bool) :
    (ofRecords records).parentEmits c name side =
      ((ofRecords records).ancestors c).any fun a => a.showsFirst name side := by
  rw [parentEmits, Bool.eq_iff_iff, List.any_eq_true, List.any_eq_true]
  have hfirst : ∀ a ∈ (ofRecords records).ancestors c,
      (ofRecords records).member? a name (some [.property, .method, .config]) (some side) =
        a.first? name side := by
    intro a ha
    rw [member?_eq (proper_of_mem_ancestors ha), ClassRecord.first?]
    congr 1
    funext m
    cases m.kind <;> simp
  constructor
  · rintro ⟨a, ha, h⟩
    refine ⟨a, ha, ?_⟩
    rw [hfirst a ha] at h
    unfold ClassRecord.showsFirst
    cases hm : a.first? name side <;> simp_all
  · rintro ⟨a, ha, h⟩
    refine ⟨a, ha, ?_⟩
    rw [hfirst a ha]
    unfold ClassRecord.showsFirst at h
    cases hm : a.first? name side <;> simp_all

/-- A class makes a declaration of a visible member unless an ancestor shows its name first; a constructor is
declared on every level, and a single object has neither static members nor a constructor. -/
theorem shouldEmit_iff (m : Member) :
    (ofRecords records).shouldEmit c m = true ↔
      (c.singleton = true → m.isStatic = false ∧ m.isConstructor = false) ∧
        c.shows m = true ∧ (m.isConstructor = true ∨
          ∀ a ∈ (ofRecords records).ancestors c, a.showsFirst m.name m.isStatic = false) := by
  unfold shouldEmit
  rw [parentEmits_eq]
  cases c.singleton <;> cases m.isStatic <;> cases m.isConstructor <;>
    cases c.shows m <;> simp

end Registry

namespace Emitter

variable {records : List ClassRecord} (config : EmitterConfig) {c : ClassRef}

theorem yields_eq (hc : (Registry.ofRecords records).Proper c) (m : Member) :
    (⟨Registry.ofRecords records, config⟩ : Emitter).yields c m = c.givesWay m := by
  unfold yields ClassRecord.givesWay has Member.kind
  cases m.body with
  | property type optional => exact Registry.isSome_member?_kind hc m.name .method
  | method params returns => rfl
  | config type optional required =>
    simp only [Registry.isSome_member?_kind hc]

theorem exists_declaration_iff (hc : (Registry.ofRecords records).Proper c) (name : String)
    (side : Bool) (s : EmitState) :
    (∃ d ∈ (((⟨Registry.ofRecords records, config⟩ : Emitter).classDecl c).run s).1.members,
      d.key = (name, side)) ↔
    ∃ m ∈ c.members, m.name = name ∧ (c.singleton || m.isStatic) = side ∧
      (c.singleton = true → m.isStatic = false ∧ m.isConstructor = false) ∧
      c.shows m = true ∧ c.givesWay m = false ∧ (m.isConstructor = true ∨
        ∀ a ∈ (Registry.ofRecords records).ancestors c, a.showsFirst name m.isStatic = false) := by
  rw [exists_key_classDecl]
  constructor
  · rintro ⟨m, hm, hdeclares, hkey⟩
    obtain ⟨hshould, hyields⟩ := Bool.and_eq_true_iff.mp hdeclares
    obtain ⟨rfl, hside⟩ := Prod.mk.inj hkey
    obtain ⟨hsingle, hshows, hfirst⟩ := (Registry.shouldEmit_iff m).mp hshould
    rw [yields_eq config hc, Bool.not_eq_true'] at hyields
    exact ⟨m, hm, rfl, hside, hsingle, hshows, hyields, hfirst⟩
  · rintro ⟨m, hm, rfl, hside, hsingle, hshows, hgives, hfirst⟩
    refine ⟨m, hm, Bool.and_eq_true_iff.mpr ⟨?_, ?_⟩, Prod.ext rfl hside⟩
    · exact (Registry.shouldEmit_iff m).mpr ⟨hsingle, hshows, hfirst⟩
    · rw [yields_eq config hc, hgives]
      rfl

theorem exists_declaration_class_iff (hc : (Registry.ofRecords records).Proper c)
    (hsingle : c.singleton = false) (name : String) (side : Bool) (s : EmitState) :
    (∃ d ∈ (((⟨Registry.ofRecords records, config⟩ : Emitter).classDecl c).run s).1.members,
      d.key = (name, side)) ↔
    ∃ m, c.Offers name side m ∧ (m.isConstructor = true ∨
      ∀ a ∈ (Registry.ofRecords records).ancestors c, a.showsFirst name side = false) := by
  rw [exists_declaration_iff config hc]
  constructor
  · rintro ⟨m, hm, hname, hside, _, hshows, hgives, hfirst⟩
    rw [hsingle, Bool.false_or] at hside
    exact ⟨m, ⟨hm, hname, hside, hshows, hgives⟩, hside ▸ hfirst⟩
  · rintro ⟨m, ⟨hm, hname, hside, hshows, hgives⟩, hfirst⟩
    exact ⟨m, hm, hname, by rw [hsingle, hside, Bool.false_or], by simp [hsingle], hshows, hgives,
      hside ▸ hfirst⟩

/-- What a single object declares on a side of a name: it shows its instance members as static ones. -/
theorem exists_declaration_object_iff (hc : (Registry.ofRecords records).Proper c)
    (hsingle : c.singleton = true) (name : String) (side : Bool) (s : EmitState) :
    (∃ d ∈ (((⟨Registry.ofRecords records, config⟩ : Emitter).classDecl c).run s).1.members,
      d.key = (name, side)) ↔
    side = true ∧ (∃ m, c.Offers name false m ∧ m.isConstructor = false) ∧
      ∀ a ∈ (Registry.ofRecords records).ancestors c, a.showsFirst name false = false := by
  rw [exists_declaration_iff config hc]
  constructor
  · rintro ⟨m, hm, hname, hside, hobject, hshows, hgives, hfirst⟩
    obtain ⟨hinstance, hplain⟩ := hobject hsingle
    rw [hsingle, Bool.true_or] at hside
    rw [hplain, hinstance] at hfirst
    exact ⟨hside.symm, ⟨m, ⟨hm, hname, hinstance, hshows, hgives⟩, hplain⟩,
      hfirst.resolve_left (by simp)⟩
  · rintro ⟨rfl, ⟨m, ⟨hm, hname, hinstance, hshows, hgives⟩, hplain⟩, hfirst⟩
    exact ⟨m, hm, hname, by rw [hsingle, Bool.true_or], fun _ => ⟨hinstance, hplain⟩, hshows,
      hgives, Or.inr (hinstance ▸ hfirst)⟩

theorem exists_plain_declaration_iff (hc : (Registry.ofRecords records).Proper c)
    (hsingle : c.singleton = false) (name : String) (side : Bool) (s : EmitState) :
    (∃ d ∈ (((⟨Registry.ofRecords records, config⟩ : Emitter).classDecl c).run s).1.members,
      d.key = (name, side) ∧ d.isConstructor = false) ↔
    (∃ m, c.Offers name side m ∧ m.isConstructor = false) ∧
      ∀ a ∈ (Registry.ofRecords records).ancestors c, a.showsFirst name side = false := by
  constructor
  · rintro ⟨d, hd, hkey, hplain⟩
    obtain ⟨m, hm, hdeclares, hmkey, hmplain⟩ := exists_member_of_mem_classDecl _ c s hd
    obtain ⟨hshould, hyields⟩ := Bool.and_eq_true_iff.mp hdeclares
    rw [hmkey, memberKey, hsingle, Bool.false_or] at hkey
    obtain ⟨rfl, rfl⟩ := Prod.mk.inj hkey
    rw [hplain] at hmplain
    obtain ⟨_, hshows, hfirst⟩ := (Registry.shouldEmit_iff m).mp hshould
    rw [yields_eq config hc, Bool.not_eq_true'] at hyields
    refine ⟨⟨m, ⟨hm, rfl, rfl, hshows, hyields⟩, hmplain.symm⟩, ?_⟩
    exact hfirst.resolve_left (by simp [← hmplain])
  · rintro ⟨⟨m, hoffers, hplain⟩, hfirst⟩
    have hdeclared := (exists_declaration_class_iff config hc hsingle name side s).mpr
      ⟨m, hoffers, Or.inr hfirst⟩
    obtain ⟨d, hd, hkey⟩ := hdeclared
    refine ⟨d, hd, hkey, ?_⟩
    obtain ⟨k, hk, _, hkkey, hkctor⟩ := exists_member_of_mem_classDecl _ c s hd
    rw [hkctor]
    by_contra hctor
    obtain ⟨_, hmname, _, _, hgives⟩ := hoffers
    have hname : m.name = k.name := hmname.trans (congrArg Prod.fst (hkey.symm.trans hkkey))
    have hway := ClassRecord.givesWay_of_constructor hk (by simpa using hctor) hname hplain
    exact absurd (hgives.symm.trans hway) (by simp)

end Emitter

/-! Two classes that document one property: the parent hides the first record of it or has a private method of
its name, the child shows it. -/

def exampleProperty (isPrivate : Bool) : Member :=
  { name := "foo", isPrivate := isPrivate, body := .property "String" false }

def hidingParent : ClassRecord :=
  { name := "Ext.Base", members := [exampleProperty true, exampleProperty false] }

def collidingParent : ClassRecord :=
  { name := "Ext.Base", members := [exampleProperty false,
      { name := "foo", isPrivate := true, body := .method [] none }] }

def plainChild : ClassRecord :=
  { name := "Ext.Sub", parent := "Ext.Base", members := [exampleProperty false] }

namespace Registry

variable {records : List ClassRecord} {c : ClassRef}

/-- A class and one of its ancestors both declare a name on a side, the class not as its constructor, exactly if
both offer a member there while every ancestor hides the first member that it documents there. -/
theorem redeclared_iff (config : EmitterConfig) (hc : (ofRecords records).Proper c)
    (hsingle : c.singleton = false) {a : ClassRef} (ha : a ∈ (ofRecords records).ancestors c)
    (hasingle : a.singleton = false) (name : String) (side : Bool) (s t : EmitState) :
    let e : Emitter := ⟨ofRecords records, config⟩
    ((∃ d ∈ ((e.classDecl c).run s).1.members, d.key = (name, side) ∧ d.isConstructor = false) ∧
      ∃ d ∈ ((e.classDecl a).run t).1.members, d.key = (name, side)) ↔
    (∃ m, c.Offers name side m ∧ m.isConstructor = false) ∧ (∃ m, a.Offers name side m) ∧
      ∀ b ∈ (ofRecords records).ancestors c, b.showsFirst name side = false := by
  intro e
  rw [Emitter.exists_plain_declaration_iff config hc hsingle,
    Emitter.exists_declaration_class_iff config (proper_of_mem_ancestors ha) hasingle]
  constructor
  · rintro ⟨⟨hoffers, hfirst⟩, m, hm, _⟩
    exact ⟨hoffers, ⟨m, hm⟩, hfirst⟩
  · rintro ⟨hoffers, ⟨m, hm⟩, hfirst⟩
    have habove : ∀ b ∈ (ofRecords records).ancestors a, b.showsFirst name side = false :=
      fun b hb => hfirst b (mem_ancestors_trans ha hb)
    exact ⟨⟨hoffers, hfirst⟩, m, hm, Or.inr habove⟩

theorem redeclared_iff_hidingParent :
    let r := ofRecords [hidingParent, plainChild]
    let c : ClassRef := ⟨plainChild, some 1⟩
    let a : ClassRef := ⟨hidingParent, some 0⟩
    (r.Proper c ∧ c.singleton = false ∧ a ∈ r.ancestors c ∧ a.singleton = false) ∧
      (∃ d ∈ (((⟨r, {}⟩ : Emitter).classDecl c).run {}).1.members,
        d.key = ("foo", false) ∧ d.isConstructor = false) ∧
      ∃ d ∈ (((⟨r, {}⟩ : Emitter).classDecl a).run {}).1.members, d.key = ("foo", false) := by
  intro r c a
  have hc : r.Proper c := fun _ => List.mem_cons_of_mem _ (List.mem_cons_self ..)
  have hancestors : r.ancestors c = [a] := rfl
  have ha : a ∈ r.ancestors c := by
    rw [hancestors]
    exact List.mem_cons_self ..
  refine ⟨⟨hc, rfl, ha, rfl⟩, (redeclared_iff {} hc rfl ha rfl "foo" false {} {}).mpr ?_⟩
  refine ⟨⟨exampleProperty false, ⟨List.mem_cons_self .., rfl, rfl, rfl, rfl⟩, rfl⟩,
    ⟨exampleProperty false, List.mem_cons_of_mem _ (List.mem_cons_self ..), rfl, rfl, rfl, rfl⟩, ?_⟩
  intro b hb
  rw [hancestors, List.mem_singleton] at hb
  rw [hb]
  rfl

/-- A class declares a property again that its parent declares from the second record of it. -/
theorem hidden_first_member_redeclared :
    let r := ofRecords [hidingParent, plainChild]
    let e : Emitter := ⟨r, {}⟩
    ∃ c ∈ r.classes, c.singleton = false ∧ ∃ a ∈ r.ancestors c, a.singleton = false ∧
      (∃ d ∈ ((e.classDecl c).run {}).1.members,
        d.key = ("foo", false) ∧ d.isConstructor = false) ∧
      ∃ d ∈ ((e.classDecl a).run {}).1.members,
        d.key = ("foo", false) ∧ d.isConstructor = false := by
  decide +kernel

theorem exists_last_of_any {α : Type} {p : α → Bool} {l : List α} (h : l.any p = true) :
    ∃ below x above, l = below ++ x :: above ∧ p x = true ∧ ∀ y ∈ above, p y = false := by
  induction l with
  | nil => simp at h
  | cons a l ih =>
    cases hl : l.any p with
    | true =>
      obtain ⟨below, x, above, rfl, hx, habove⟩ := ih hl
      exact ⟨a :: below, x, above, rfl, hx, habove⟩
    | false =>
      rw [List.any_cons, hl, Bool.or_false] at h
      refine ⟨[], a, l, rfl, h, fun y hy => ?_⟩
      simpa using List.any_eq_false.mp hl y hy

theorem parentEmits_of_suppressed {m : Member} (hsingle : c.singleton = false)
    (hshows : c.shows m = true) (hsup : (ofRecords records).shouldEmit c m = false) :
    ((ofRecords records).ancestors c).any (fun a => a.showsFirst m.name m.isStatic) = true := by
  rw [← parentEmits_eq]
  simp only [shouldEmit, hsingle, hshows] at hsup
  cases hparent : (ofRecords records).parentEmits c m.name m.isStatic with
  | true => rfl
  | false => cases hctor : m.isConstructor <;> simp_all

/-- For a member that is left out because of an ancestor, look at the farthest ancestor `t` that shows its name first.
Some ancestor declares the name on that side exactly in three cases: `t` or an ancestor of it, not a single
object, offers a member there; some ancestor has a constructor there; or the side is static and a single
object shows an instance member of that name. -/
theorem suppressed_declared_iff (config : EmitterConfig) (hsingle : c.singleton = false)
    {m : Member} (hshows : c.shows m = true)
    (hsup : (ofRecords records).shouldEmit c m = false) (s : EmitState) :
    let r := ofRecords records
    let e : Emitter := ⟨r, config⟩
    ∃ below t above, r.ancestors c = below ++ t :: above ∧
      t.showsFirst m.name m.isStatic = true ∧
      (∀ a ∈ above, a.showsFirst m.name m.isStatic = false) ∧
      ((∃ a ∈ r.ancestors c, ∃ d ∈ ((e.classDecl a).run s).1.members,
          d.key = (m.name, m.isStatic)) ↔
        (∃ a ∈ t :: above, a.singleton = false ∧ ∃ k, a.Offers m.name m.isStatic k) ∨
        (∃ a ∈ r.ancestors c, a.singleton = false ∧
          ∃ k, a.Offers m.name m.isStatic k ∧ k.isConstructor = true) ∨
        (m.isStatic = true ∧ ∃ a ∈ r.ancestors c, a.singleton = true ∧
          (∃ k, a.Offers m.name false k ∧ k.isConstructor = false) ∧
          ∀ b ∈ r.ancestors a, b.showsFirst m.name false = false)) := by
  intro r e
  obtain ⟨below, t, above, hsplit, ht, habove⟩ :=
    exists_last_of_any (parentEmits_of_suppressed hsingle hshows hsup)
  have hup : above = r.ancestors t := eq_ancestors_of_append hsplit
  refine ⟨below, t, above, hsplit, ht, habove, ?_⟩
  constructor
  · rintro ⟨a, ha, hdeclared⟩
    have hproper := proper_of_mem_ancestors ha
    cases hasingle : a.singleton with
    | true =>
      obtain ⟨hside, hoffers, hfirst⟩ :=
        (Emitter.exists_declaration_object_iff config hproper hasingle _ _ s).mp hdeclared
      exact Or.inr (Or.inr ⟨hside, a, ha, hasingle, hoffers, hfirst⟩)
    | false =>
      obtain ⟨k, hoffers, hctor | hfirst⟩ :=
        (Emitter.exists_declaration_class_iff config hproper hasingle _ _ s).mp hdeclared
      · exact Or.inr (Or.inl ⟨a, ha, hasingle, k, hoffers, hctor⟩)
      · refine Or.inl ⟨a, ?_, hasingle, k, hoffers⟩
        rw [hsplit, List.mem_append] at ha
        refine ha.resolve_left fun hbelow => ?_
        -- below `t` the member would have been left out as well
        have htmem := mem_ancestors_of_below hsplit hbelow
        exact absurd (ht.symm.trans (hfirst t htmem)) (by simp)
  · have hmem : ∀ a ∈ t :: above, a ∈ r.ancestors c := by
      intro a ha
      rw [hsplit]
      exact List.mem_append_right below ha
    have hhidden : ∀ a ∈ t :: above, ∀ b ∈ r.ancestors a,
        b.showsFirst m.name m.isStatic = false := by
      intro a ha b hb
      refine habove b ?_
      rw [hup]
      rcases List.mem_cons.mp ha with rfl | ha
      · exact hb
      · exact mem_ancestors_trans (hup ▸ ha) hb
    rintro (⟨a, ha, hasingle, k, hoffers⟩ | ⟨a, ha, hasingle, k, hoffers, hctor⟩ |
      ⟨hstatic, a, ha, hasingle, hoffers, hfirst⟩)
    · have hproper := proper_of_mem_ancestors (hmem a ha)
      exact ⟨a, hmem a ha,
        (Emitter.exists_declaration_class_iff config hproper hasingle _ _ s).mpr
          ⟨k, hoffers, Or.inr (hhidden a ha)⟩⟩
    · have hproper := proper_of_mem_ancestors ha
      exact ⟨a, ha, (Emitter.exists_declaration_class_iff config hproper hasingle _ _ s).mpr
        ⟨k, hoffers, Or.inl hctor⟩⟩
    · have hproper := proper_of_mem_ancestors ha
      exact ⟨a, ha, (Emitter.exists_declaration_object_iff config hproper hasingle _ _ s).mpr
        ⟨hstatic, hoffers, hfirst⟩⟩

theorem suppressed_declared_iff_collidingParent :
    let r := ofRecords [collidingParent, plainChild]
    let c : ClassRef := ⟨plainChild, some 1⟩
    (c.singleton = false ∧ c.shows (exampleProperty false) = true ∧
      r.shouldEmit c (exampleProperty false) = false) ∧
      ∃ below t above, r.ancestors c = below ++ t :: above ∧
        t.showsFirst "foo" false = true := by
  intro r c
  have hsup : r.shouldEmit c (exampleProperty false) = false := by decide +kernel
  obtain ⟨below, t, above, hsplit, ht, _⟩ := suppressed_declared_iff {} rfl rfl hsup {}
  exact ⟨⟨rfl, rfl, hsup⟩, below, t, above, hsplit, ht⟩

/-- A property that its parent gives up for a private method is declared nowhere. -/
theorem private_method_loses_member :
    let r := ofRecords [collidingParent, plainChild]
    let e : Emitter := ⟨r, {}⟩
    ∃ c ∈ r.classes, c.singleton = false ∧ ∃ m ∈ c.members, c.shows m = true ∧
      m.isConstructor = false ∧ r.shouldEmit c m = false ∧
      r.parentEmits c m.name m.isStatic = true ∧
      ∀ a ∈ r.ancestors c, ∀ d ∈ ((e.classDecl a).run {}).1.members,
        d.key ≠ (m.name, m.isStatic) := by
  decide +kernel

end Registry
end AmbientDecls
