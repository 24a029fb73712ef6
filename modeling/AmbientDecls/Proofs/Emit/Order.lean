import AmbientDecls.Proofs.Data.Ascending
import AmbientDecls.Proofs.Docs.Order
import AmbientDecls.Proofs.Emit.Steady
import AmbientDecls.Proofs.Types.Aliases

/-! The order in which records are loaded. If no name is claimed by two records and no class is above itself, another order
changes nothing in the declarations but the order of the classes inside a module. -/

namespace AmbientDecls

theorem any_eq_of_forall₂ {α β : Type} {R : α → β → Prop} {p : α → Bool} {q : β → Bool}
    {l : List α} {l' : List β} (h : List.Forall₂ R l l') (hpq : ∀ a b, R a b → p a = q b) :
    l.any p = l'.any q := by
  induction h with
  | nil => rfl
  | cons hab _ ih => rw [List.any_cons, List.any_cons, hpq _ _ hab, ih]

theorem find?_rel_of_forall₂ {α β : Type} {R : α → β → Prop} {p : α → Bool} {q : β → Bool}
    {l : List α} {l' : List β} (h : List.Forall₂ R l l') (hpq : ∀ a b, R a b → p a = q b) :
    Option.Rel R (l.find? p) (l'.find? q) := by
  induction h with
  | nil => exact .none
  | @cons a b l l' hab _ ih =>
    rw [List.find?_cons, List.find?_cons, hpq a b hab]
    cases q b with
    | true => exact .some hab
    | false => exact ih

namespace Registry

variable {r r' : Registry} {c c' : ClassRef}

theorem Matching.parentEmits_eq (h : Matching r r') (hname : c.name = c'.name) :
    r.parentEmits c = r'.parentEmits c' := by
  funext name side
  refine any_eq_of_forall₂ (h.ancestors hname) fun a a' ha => ?_
  rw [h.member ha]
  cases r'.member? a' name (some [.property, .method, .config]) (some side) with
  | none => rfl
  | some m => exact congrArg (fun x : ClassRecord => x.shows m) ha.record

theorem Matching.shouldEmit_eq (h : Matching r r') (hc : Alike r r' c c') :
    r.shouldEmit c = r'.shouldEmit c' := by
  funext m
  unfold shouldEmit
  rw [h.parentEmits_eq hc.name_eq, hc.record]

theorem Matching.emitsConstructor_eq (h : Matching r r') (hc : Alike r r' c c') :
    r.emitsConstructor c = r'.emitsConstructor c' := by
  unfold emitsConstructor
  rw [h.member hc, h.shouldEmit_eq hc]

theorem Matching.configBase?_alike (h : Matching r r') (hname : c.name = c'.name) :
    Option.Rel (Alike r r') (r.configBase? c) (r'.configBase? c') := by
  unfold configBase?
  rw [h.parentEmits_eq hname]
  split
  · exact find?_rel_of_forall₂ (h.ancestors hname) fun a a' ha => h.emitsConstructor_eq ha
  · exact .none

theorem Matching.configChain_alike (h : Matching r r') (fuel : Nat) (hname : c.name = c'.name) :
    List.Forall₂ (Alike r r') (r.configChain fuel c) (r'.configChain fuel c') := by
  induction fuel generalizing c c' with
  | zero => exact .nil
  | succ fuel ih =>
    have hbase := h.configBase?_alike hname
    unfold configChain
    generalize r.configBase? c = b at hbase ⊢
    generalize r'.configBase? c' = b' at hbase ⊢
    cases hbase with
    | none => exact .nil
    | some hb => exact .cons hb (ih hb.name_eq)

theorem Matching.allOptionNames_eq (h : Matching r r') (hc : Alike r r' c c') :
    r.allOptionNames c = r'.allOptionNames c' := by
  have hbases : (r.configBases c).map (·.toClassRecord) = (r'.configBases c').map (·.toClassRecord) := by
    unfold configBases
    rw [h.size]
    have hchain := h.configChain_alike (r'.size + 1) hc.name_eq
    rw [← List.forall₂_eq_eq_eq, List.forall₂_map_left_iff, List.forall₂_map_right_iff]
    exact hchain.imp fun _ _ hb => hb.record
  unfold allOptionNames
  rw [hbases, hc.record]

end Registry

open Registry Emit

variable {r r' : Registry}

theorem convertSlot_matching (h : Matching r r') : convertSlot r = convertSlot r' := by
  funext expand subject slot
  have hfind := h.find slot.base
  unfold convertSlot
  generalize r.find? slot.base = c at hfind ⊢
  generalize r'.find? slot.base = c' at hfind ⊢
  cases hfind with
  | none => rfl
  | @some c c' hc =>
    obtain ⟨x, i⟩ := c
    obtain ⟨x', j⟩ := c'
    obtain rfl : x = x' := hc.record
    rfl

theorem convertPlain_matching (h : Matching r r') (fuel : Nat) :
    convertPlain r fuel = convertPlain r' fuel := by
  induction fuel with
  | zero => rfl
  | succ fuel ih =>
    funext type
    rw [convertPlain, convertPlain, ih, convertSlot_matching h]

theorem typeFuel_matching (h : Matching r r') : r.typeFuel = r'.typeFuel := congrArg (· + 1) h.size

mutual

theorem convert_matching (h : Matching r r') (type : String) :
    (ps : Option (List Param)) → convert r type ps = convert r' type ps
  | none => by
    rw [convert, convert, typeFuel_matching h, convertPlain_matching h]
  | some ps => by
    rw [convert, convert, typeFuel_matching h, convertPlain_matching h, convertSlot_matching h,
      callbackReturn_matching h ps, callbackParams_matching h type ps]
termination_by structural ps => ps

theorem convertWith_matching (h : Matching r r') (type : String) :
    (p : Param) → convertWith r type p = convertWith r' type p
  | ⟨_, _, _, properties, _⟩ => by
    rw [convertWith, convertWith, convert_matching h type properties]
termination_by structural p => p

theorem callbackReturn_matching (h : Matching r r') :
    (ps : List Param) → callbackReturn r ps = callbackReturn r' ps
  | [] => by
    funext found
    rw [callbackReturn, callbackReturn]
  | p :: ps => by
    funext found
    rw [callbackReturn, callbackReturn, convertWith_matching h p.type p, callbackReturn_matching h ps]
termination_by structural ps => ps

theorem callbackParams_matching (h : Matching r r') (subject : String) :
    (ps : List Param) → callbackParams r subject ps = callbackParams r' subject ps
  | [] => by
    funext seen optional
    rw [callbackParams, callbackParams]
  | p :: ps => by
    funext seen optional
    rw [callbackParams, callbackParams, callbackParams_matching h subject ps]
    simp only [fun type => convertWith_matching h type p]
termination_by structural ps => ps

end

theorem ParamList.build_matching (h : Matching r r') (subject : String) (config : Option String)
    (ps : List Param) : build ⟨r, subject, config⟩ ps = build ⟨r', subject, config⟩ ps := by
  induction ps with
  | nil => rfl
  | cons p ps ih =>
    funext seen optional
    unfold build
    simp only [ih, convert_matching h]

namespace Emitter

variable {config : EmitterConfig} {c c' : ClassRef}

theorem signature?_matching (h : Matching r r') (hc : Alike r r' c c') :
    signature? ⟨r, config⟩ c = signature? ⟨r', config⟩ c' := by
  funext m
  have hhas : has ⟨r, config⟩ c = has ⟨r', config⟩ c' := by
    funext m kind
    unfold has
    simp only [h.member hc]
  have htype : propertyType ⟨r, config⟩ c = propertyType ⟨r', config⟩ c' := by
    funext m type
    unfold propertyType
    simp only [h.member hc, hc.record]
  have hparameters : parameters ⟨r, config⟩ c = parameters ⟨r', config⟩ c' := by
    funext m params
    unfold parameters
    simp only [ParamList.build_matching h, hc.record]
  unfold signature? warnCollision
  simp only [hhas, htype, hparameters, hc.record, convert_matching h]

theorem member_matching (h : Matching r r') (hc : Alike r r' c c') :
    member ⟨r, config⟩ c = member ⟨r', config⟩ c' := by
  funext m
  unfold member declare memberUrl
  simp only [h.shouldEmit_eq hc, signature?_matching h hc, hc.record]

theorem configFields_matching (h : Matching r r') (ms : List Member) :
    configFields ⟨r, config⟩ ms = configFields ⟨r', config⟩ ms := by
  induction ms with
  | nil => rfl
  | cons m ms ih =>
    funext seen
    unfold configFields
    simp only [ih, convert_matching h]

theorem configInterface_matching (h : Matching r r') (hc : Alike r r' c c') :
    configInterface ⟨r, config⟩ c = configInterface ⟨r', config⟩ c' := by
  have hnames := map_eq_of_rel (h.configBase?_alike hc.name_eq) fun _ _ => h.allOptionNames_eq
  have hbase := map_eq_of_rel (h.configBase?_alike hc.name_eq)
    fun _ _ hb => congrArg ClassRecord.qualifiedConfigName hb.record
  unfold configInterface
  simp only [configFields_matching h, hc.record, hnames, hbase]

theorem body_matching (h : Matching r r') (hc : Alike r r' c c') (ms : List Member) :
    body ⟨r, config⟩ c ms = body ⟨r', config⟩ c' ms := by
  induction ms with
  | nil => rfl
  | cons m ms ih =>
    funext emitted
    unfold body
    simp only [ih, member_matching h hc, hc.record]

theorem warnParent_matching (h : Matching r r') (hc : Alike r r' c c') :
    warnParent ⟨r, config⟩ c = warnParent ⟨r', config⟩ c' := by
  have hcontains : r.contains c'.parent = r'.contains c'.parent := by
    have hsome := congrArg Option.isSome
      (map_eq_of_rel (h.find c'.parent) fun _ _ => Alike.name_eq)
    rw [Option.isSome_map, Option.isSome_map] at hsome
    exact hsome
  unfold warnParent
  simp only [hc.record, hcontains]

theorem extends?_matching (h : Matching r r') (hc : Alike r r' c c') :
    extends? ⟨r, config⟩ c = extends? ⟨r', config⟩ c' := by
  unfold extends?
  rw [hc.record]
  exact congrArg _ (map_eq_of_rel (h.parent hc.name_eq) fun _ _ => Alike.name_eq)

/-- A record is declared in the same way from two registries that find the same records. -/
theorem classDecl_matching (h : Matching r r') (hc : Alike r r' c c') :
    classDecl ⟨r, config⟩ c = classDecl ⟨r', config⟩ c' := by
  unfold classDecl classUrl
  simp only [h.emitsConstructor_eq hc, configInterface_matching h hc, warnParent_matching h hc,
    body_matching h hc, extends?_matching h hc, hc.record]

end Emitter

theorem Scope.shown_ofModule_congr {m m' : Module}
    (h : ∀ name, name ∈ m.classes.map (fun c => c.baseName) ↔
      name ∈ m'.classes.map (fun c => c.baseName)) (aliasPrefix : String) :
    (Scope.ofModule m aliasPrefix).shown = (Scope.ofModule m' aliasPrefix).shown := by
  funext name
  have hhidden : (m.classes.map fun c => c.baseName).contains name =
      (m'.classes.map fun c => c.baseName).contains name := by
    rw [Bool.eq_iff_iff, List.contains_iff_mem, List.contains_iff_mem, h]
  unfold Scope.shown Scope.ofModule
  simp only [hhidden]

namespace Registry

def moduleNamed (r : Registry) (name : String) : Module :=
  ⟨name, r.classes.filter fun c => c.moduleName = name⟩

theorem exists_module_iff {r : Registry} {p : Module → Prop} :
    (∃ m ∈ r.modules, p m) ↔ ∃ name ∈ r.moduleNames, p (r.moduleNamed name) := by
  constructor
  · rintro ⟨m, hm, hp⟩
    obtain ⟨name, hname, rfl⟩ := List.mem_map.mp hm
    exact ⟨name, hname, hp⟩
  · rintro ⟨name, hname, hp⟩
    exact ⟨_, List.mem_map_of_mem hname, hp⟩

variable {records records' : List ClassRecord}

theorem records_moduleNamed (records : List ClassRecord) (name : String) :
    ((ofRecords records).moduleNamed name).classes.map (·.toClassRecord) =
      records.filter fun c => c.moduleName = name := by
  conv_rhs => rw [← map_record_placed records, List.filter_map]
  rfl

theorem moduleNames_reordered (h : Reordered records records') :
    (ofRecords records).moduleNames = (ofRecords records').moduleNames := by
  have hnames : ∀ records : List ClassRecord,
      ((ofRecords records).classes.map fun c => c.moduleName) =
        records.map fun c => c.moduleName := by
    intro records
    conv_rhs => rw [← map_record_placed records, List.map_map]
    rfl
  refine ascending_congr fun name => ?_
  rw [hnames, hnames]
  exact (h.perm.map _).mem_iff

/-- Modules of one name have the same records, in whatever order. -/
theorem perm_moduleNamed (h : Reordered records records') (name : String) :
    (((ofRecords records).moduleNamed name).classes.map (·.toClassRecord)).Perm
      (((ofRecords records').moduleNamed name).classes.map (·.toClassRecord)) := by
  rw [records_moduleNamed, records_moduleNamed]
  exact h.perm.filter _

theorem Matching.classDecl_eq {r r' : Registry} (h : Matching r r') (config : EmitterConfig)
    {c : ClassRef} (hc : c ∈ r'.classes) :
    Emitter.classDecl ⟨r', config⟩ c = Emitter.classDecl ⟨r, config⟩ ⟨c.toClassRecord, none⟩ := by
  have hrecord : Alike r r' ⟨c.toClassRecord, none⟩ c :=
    ⟨rfl, fun hsome => absurd hsome (by simp), proper_of_mem hc⟩
  exact (Emitter.classDecl_matching h hrecord).symm

end Registry

namespace Emitter

variable {records records' : List ClassRecord}

/-- What a record comes to in the module of a name is the same for both orders. -/
theorem exists_common_results (h : Reordered records records') (config : EmitterConfig) :
    let e : Emitter := ⟨ofRecords records, config⟩
    let e' : Emitter := ⟨ofRecords records', config⟩
    ∃ r : String → ClassRecord → Result ClassDecl,
      (∀ m ∈ e.registry.modules, ∀ c ∈ m.classes,
        ComesTo (e.scopeOf m).shown (e.classDecl c) (r m.name c.toClassRecord)) ∧
      ∀ m ∈ e'.registry.modules, ∀ c ∈ m.classes,
        ComesTo (e'.scopeOf m).shown (e'.classDecl c) (r m.name c.toClassRecord) := by
  intro e e'
  have hself : Reordered records records := ⟨.refl _, h.unambiguous, h.acyclic⟩
  -- chosen by the record alone: its place is different in the two registries and is not used
  choose r hr using fun (name : String) (c : ClassRecord) =>
    e.steady_classDecl ⟨c, none⟩ (e.scopeOf (e.registry.moduleNamed name)).shown
  refine ⟨r, fun m hm c hc => ?_, fun m hm c hc => ?_⟩
  · obtain ⟨name, _, rfl⟩ := List.mem_map.mp hm
    have hclass := (matching_reordered hself).classDecl_eq config (List.mem_of_mem_filter hc)
    exact hclass ▸ hr name c.toClassRecord
  · obtain ⟨name, _, rfl⟩ := List.mem_map.mp hm
    have hclass := (matching_reordered h).classDecl_eq config (List.mem_of_mem_filter hc)
    have hshown : (e'.scopeOf (e'.registry.moduleNamed name)).shown =
        (e.scopeOf (e.registry.moduleNamed name)).shown := by
      refine Scope.shown_ofModule_congr (fun base => ?_) config.aliasPrefix
      have hperm := (perm_moduleNamed h name).symm.map fun c => c.baseName
      rw [List.map_map, List.map_map] at hperm
      exact hperm.mem_iff
    change ComesTo (e'.scopeOf (e'.registry.moduleNamed name)).shown _ _
    rw [hshown, hclass]
    exact hr name c.toClassRecord

/-- The aliases of all modules, each with the name it stands for. -/
def aliasTable (modules : List ModuleDecl) : List (String × String) :=
  modules.flatMap fun m => m.aliases.map fun (target, a) => (a, target)

theorem fileAliases_congr {modules modules' : List ModuleDecl}
    (h : ∀ entry, entry ∈ aliasTable modules ↔ entry ∈ aliasTable modules')
    (hunique : ∀ a s t, (a, s) ∈ aliasTable modules → (a, t) ∈ aliasTable modules → s = t) :
    fileAliases modules = fileAliases modules' := by
  have hnames : ∀ a, a ∈ (aliasTable modules).map (·.1) ↔ a ∈ (aliasTable modules').map (·.1) := by
    intro a
    simp only [List.mem_map, h]
  have hlookup := lookup_congr h hunique
  have hall : ∀ modules, fileAliases modules =
      (((aliasTable modules).map (·.1)).eraseDups.mergeSort fun a b => !(b < a)).filterMap
        fun a => ((aliasTable modules).lookup a).map fun target => (a, target) := fun _ => rfl
  rw [hall, hall, ascending_congr hnames]
  simp only [hlookup]

/-- The alias table of a file, by the records of its modules alone. -/
theorem mem_aliasTable {e : Emitter} {r : String → ClassRecord → Result ClassDecl}
    {modules : List Module} {a target : String} :
    (a, target) ∈ aliasTable
        (modules.map fun m => (e.moduleResult m fun c => r m.name c.toClassRecord).value) ↔
      ∃ m ∈ modules, (target ∈ (m.classes.map (·.toClassRecord)).map ClassRecord.baseName ∧
        a = e.config.aliasPrefix ++ target) ∧
        target ∈ ((m.classes.map (·.toClassRecord)).flatMap fun c =>
          (r m.name c).targets).map identifier := by
  have hswap : ∀ aliases : List (String × String),
      (a, target) ∈ aliases.map (fun (target, a) => (a, target)) ↔ (target, a) ∈ aliases := by
    simp
  rw [aliasTable, List.flatMap_map, List.mem_flatMap]
  refine exists_congr fun m => and_congr_right fun _ => ?_
  rw [hswap, List.map_map, List.flatMap_map]
  exact Scope.mem_aliases_ofModule m e.config.aliasPrefix _

end Emitter

/-! A class that hides a built-in type, and a class below it that refers to it. -/

def exampleDate : ClassRecord :=
  { name := "Ext.Date", members := [{ name := "since", body := .property "Date" false }] }

def exampleBirthday : ClassRecord :=
  { name := "Ext.Birthday", parent := "Ext.Date",
    members := [{ name := "of", body := .property "Ext.Person" false }] }

namespace Registry

variable {records records' : List ClassRecord}

/-- Another order of the records declares the same modules in the same order with the same aliases, each record in the
same way in its module, and reports the same; only the classes inside a module may be in another order. -/
theorem load_order_irrelevant (config : EmitterConfig) (h : Reordered records records') :
    let r := ofRecords records
    let r' := ofRecords records'
    let e : Emitter := ⟨r, config⟩
    let e' : Emitter := ⟨r', config⟩
    let declared := (r.modules.mapM e.moduleDecl).run {}
    let declared' := (r'.modules.mapM e'.moduleDecl).run {}
    (∀ generatedAt, (e.file generatedAt).run {} = (e.fileText generatedAt declared.1, declared.2) ∧
      (e'.file generatedAt).run {} = (e.fileText generatedAt declared'.1, declared'.2)) ∧
    r.modules.map (·.name) = r'.modules.map (·.name) ∧
    (∀ m ∈ r.modules, ∀ m' ∈ r'.modules, m.name = m'.name →
      (m.classes.map (·.toClassRecord)).Perm (m'.classes.map (·.toClassRecord))) ∧
    (∃ block : String → ClassRecord → ClassDecl,
      declared.1.map (·.classes) =
        r.modules.map (fun m => m.classes.map fun c => block m.name c.toClassRecord) ∧
      declared'.1.map (·.classes) =
        r'.modules.map (fun m => m.classes.map fun c => block m.name c.toClassRecord)) ∧
    Emitter.fileAliases declared.1 = Emitter.fileAliases declared'.1 ∧
    declared.2.diagnostics.Perm declared'.2.diagnostics ∧ r.cuts = [] ∧ r'.cuts = [] := by
  intro r r' e e' declared declared'
  obtain ⟨results, hresults, hresults'⟩ := Emitter.exists_common_results h config
  let result (e : Emitter) (m : Module) : Result ModuleDecl :=
    e.moduleResult m fun c => results m.name c.toClassRecord
  have hdeclared : declared = (r.modules.map fun m => (result e m).value,
      EmitState.after {} [] (r.modules.flatMap fun m => (result e m).reports)) :=
    e.run_modules hresults {}
  have hdeclared' : declared' = (r'.modules.map fun m => (result e' m).value,
      EmitState.after {} [] (r'.modules.flatMap fun m => (result e' m).reports)) :=
    e'.run_modules hresults' {}
  have hnames := moduleNames_reordered h
  have hperm := perm_moduleNamed h
  refine ⟨fun generatedAt => ⟨rfl, rfl⟩, ?_, ?_, ?_, ?_, ?_, cuts_reordered h⟩
  · have hmap : ∀ r : Registry, r.modules.map (·.name) = r.moduleNames := by
      intro r
      unfold modules
      rw [List.map_map]
      exact List.map_id _
    rw [hmap, hmap, hnames]
  · intro m hm m' hm' hname
    obtain ⟨name, _, rfl⟩ := List.mem_map.mp hm
    obtain ⟨name', _, rfl⟩ := List.mem_map.mp hm'
    obtain rfl : name = name' := hname
    exact hperm name
  · refine ⟨fun name c => (results name c).value, ?_, ?_⟩
    · rw [hdeclared, List.map_map]
      rfl
    · rw [hdeclared', List.map_map]
      rfl
  · rw [hdeclared, hdeclared']
    refine Emitter.fileAliases_congr (fun entry => ?_) fun a s t hs ht => ?_
    · obtain ⟨a, target⟩ := entry
      rw [Emitter.mem_aliasTable, Emitter.mem_aliasTable, exists_module_iff, exists_module_iff, hnames]
      refine exists_congr fun name => and_congr_right fun _ => and_congr (and_congr ?_ Iff.rfl) ?_
      · exact ((hperm name).map _).mem_iff
      · exact (((hperm name).flatMap_right _).map _).mem_iff
    · -- an alias is the prefix and the name it stands for, in whatever module it was assigned
      obtain ⟨_, _, ⟨_, rfl⟩, _⟩ := Emitter.mem_aliasTable.mp hs
      obtain ⟨_, _, ⟨_, heq⟩, _⟩ := Emitter.mem_aliasTable.mp ht
      exact (String.append_right_inj _).mp heq
  · have hreports : ∀ name, (result e (r.moduleNamed name)).reports.Perm
        (result e' (r'.moduleNamed name)).reports := by
      intro name
      have hclasses := (hperm name).flatMap_right fun c => (results name c).reports
      rw [List.flatMap_map, List.flatMap_map] at hclasses
      exact hclasses
    rw [hdeclared, hdeclared']
    change ((r.moduleNames.map r.moduleNamed).flatMap _).Perm
      ((r'.moduleNames.map r'.moduleNamed).flatMap _)
    rw [List.flatMap_map, List.flatMap_map, hnames]
    exact List.Perm.flatMap_left _ fun name _ => hreports name

theorem reordered_exampleDate :
    Reordered [exampleDate, exampleBirthday] [exampleBirthday, exampleDate] where
  perm := .swap _ _ _
  unambiguous := by
    have hname : ∀ c ∈ [exampleDate, exampleBirthday], ∀ name, c.claims name = true →
        c.name = name := by
      intro c hc name hclaims
      simp only [List.mem_cons, List.not_mem_nil, or_false] at hc
      rcases hc with rfl | rfl
      · exact of_decide_eq_true (by simpa [ClassRecord.claims, exampleDate] using hclaims)
      · exact of_decide_eq_true (by simpa [ClassRecord.claims, exampleBirthday] using hclaims)
    intro c hc d hd name hclaims hclaims'
    have hsame := (hname c hc name hclaims).trans (hname d hd name hclaims').symm
    simp only [List.mem_cons, List.not_mem_nil, or_false] at hc hd
    rcases hc with rfl | rfl <;> rcases hd with rfl | rfl
    · rfl
    · exact absurd hsame (by decide)
    · exact absurd hsame (by decide)
    · rfl
  acyclic := cuts_eq_nil_iff.mp (by decide +kernel)

theorem load_order_irrelevant_exampleDate :
    let r := ofRecords [exampleDate, exampleBirthday]
    let r' := ofRecords [exampleBirthday, exampleDate]
    let e : Emitter := ⟨r, {}⟩
    let e' : Emitter := ⟨r', {}⟩
    Reordered [exampleDate, exampleBirthday] [exampleBirthday, exampleDate] ∧
      r.modules.map (·.name) = r'.modules.map (·.name) ∧
      Emitter.fileAliases ((r.modules.mapM e.moduleDecl).run {}).1 =
        Emitter.fileAliases ((r'.modules.mapM e'.moduleDecl).run {}).1 := by
  intro r r' e e'
  obtain ⟨_, hnames, _, _, haliases, _⟩ := load_order_irrelevant {} reordered_exampleDate
  exact ⟨reordered_exampleDate, hnames, haliases⟩

end Registry
end AmbientDecls
