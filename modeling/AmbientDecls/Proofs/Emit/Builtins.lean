import AmbientDecls.Proofs.Emit.Order

/-! Built-in types in the declarations of a file. In a module a built-in type goes by its own name, or by an alias if a
class of the module has that name. An alias that is used in any module is declared once in the file, before
the first module, and stands for the same type in all of them. -/

namespace AmbientDecls

open Emit

/-- A table in which no key stands twice has one entry for a key that is in it. -/
theorem filter_key_eq {α : Type} {table : List (String × α)} (hnodup : (table.map Prod.fst).Nodup)
    {key : String} {a : α} (h : (key, a) ∈ table) :
    table.filter (fun entry => entry.1 = key) = [(key, a)] := by
  induction table with
  | nil => cases h
  | cons entry table ih =>
    obtain ⟨hfresh, hrest⟩ := List.nodup_cons.mp hnodup
    rcases List.mem_cons.mp h with rfl | hmem
    · rw [List.filter_cons_of_pos (by simp), List.filter_eq_nil_iff.mpr fun other hother => ?_]
      intro hkey
      exact hfresh (List.mem_map.mpr ⟨other, hother, of_decide_eq_true hkey⟩)
    · rw [List.filter_cons_of_neg fun hkey => ?_, ih hrest hmem]
      exact hfresh (List.mem_map.mpr ⟨_, hmem, (of_decide_eq_true hkey).symm⟩)

def Module.Declares (m : Module) (name : String) : Prop := name ∈ m.classes.map fun c => c.baseName

theorem Scope.shown_ofModule (m : Module) (aliasPrefix name : String) :
    (m.Declares name → (Scope.ofModule m aliasPrefix).shown name = aliasPrefix ++ name) ∧
      (¬ m.Declares name → (Scope.ofModule m aliasPrefix).shown name = name) :=
  ⟨fun h => if_pos (List.contains_iff_mem.mpr h), fun h => if_neg (mt List.contains_iff_mem.mp h)⟩

namespace Emitter

variable (e : Emitter)

/-- In the declarations of a module a text stands for a built-in type. -/
def Prints (m : Module) (target text : String) : Prop :=
  Asks (m.classes.mapM e.classDecl) (e.scopeOf m) target text

variable {e} {m : Module} {target text : String}

theorem Prints.text_eq (h : e.Prints m target text) : IsBuiltin target ∧ ∃ name,
    text = name ++ Slot.brackets (Slot.markers target.toList) ∧
      (m.Declares (identifier target) → name = e.config.aliasPrefix ++ identifier target) ∧
      (¬ m.Declares (identifier target) → name = identifier target) := by
  obtain ⟨d, _, hd⟩ := h
  obtain ⟨hbuiltin, htext⟩ := Dialogue.mem_answers hd
  exact ⟨hbuiltin, _, htext, Scope.shown_ofModule m e.config.aliasPrefix (identifier target)⟩

variable (e)

theorem isDialogue_classes (m : Module) : IsDialogue (m.classes.mapM e.classDecl) :=
  isDialogue_mapM _ fun c _ => e.isDialogue_classDecl c

/-- A module as it is declared, which is the same everywhere. -/
def declared (m : Module) : ModuleDecl := ((e.moduleDecl m).run {}).1

theorem exists_declared_eq : ∃ r : Module → ClassRef → Result ClassDecl,
    (∀ m c, ComesTo (e.scopeOf m).shown (e.classDecl c) (r m c)) ∧
      ∀ m, e.declared m = (e.moduleResult m (r m)).value := by
  obtain ⟨r, hr⟩ := e.exists_results
  refine ⟨r, hr, fun m => ?_⟩
  rw [declared, e.comesTo_moduleDecl (fun c _ => hr m c) {} rfl]

theorem run_file_declared (generatedAt : Timestamp) (s : EmitState) :
    ((e.registry.modules.mapM e.moduleDecl).run s).1 = e.registry.modules.map e.declared ∧
      ((e.file generatedAt).run s).1 =
        e.fileText generatedAt (e.registry.modules.map e.declared) := by
  obtain ⟨r, hr, hdeclared⟩ := e.exists_declared_eq
  rw [e.run_modules (fun m _ c _ => hr m c), e.run_file fun m _ c _ => hr m c,
    List.map_congr_left fun m _ => hdeclared m]
  exact ⟨rfl, rfl⟩

theorem aliases_declared (m : Module) {d : Dialogue (List ClassDecl)}
    (hd : d.act = m.classes.mapM e.classDecl) : (e.declared m).aliases =
      ((e.scopeOf m).resolveAll ((d.answers (e.scopeOf m)).map Prod.fst)).aliases := by
  unfold declared moduleDecl
  rw [run_bind, run_within, ← hd, d.scope_act]
  rfl

variable {e}

/-- The aliases of a module are those that are printed in it, each for the name it was made from. -/
theorem mem_aliases_declared {name a : String} : (name, a) ∈ (e.declared m).aliases ↔
    (m.Declares name ∧ a = e.config.aliasPrefix ++ name) ∧
      ∃ target text, e.Prints m target text ∧ identifier target = name := by
  constructor
  · intro h
    obtain ⟨d, hd⟩ := e.isDialogue_classes m
    rw [e.aliases_declared m hd] at h
    obtain ⟨hhidden, hasked⟩ := (Scope.mem_aliases_ofModule m e.config.aliasPrefix _).mp h
    rw [List.map_map] at hasked
    obtain ⟨⟨target, text⟩, hanswer, hname⟩ := List.mem_map.mp hasked
    exact ⟨hhidden, target, text, ⟨d, hd, hanswer⟩, hname⟩
  · rintro ⟨hhidden, target, text, ⟨d, hd, hanswer⟩, rfl⟩
    rw [e.aliases_declared m hd]
    refine (Scope.mem_aliases_ofModule m e.config.aliasPrefix _).mpr ⟨hhidden, ?_⟩
    exact List.mem_map_of_mem (List.mem_map_of_mem (f := Prod.fst) hanswer)

theorem mem_aliasTable_declared {modules : List Module} {a name : String} :
    (a, name) ∈ aliasTable (modules.map e.declared) ↔
      ∃ m ∈ modules, (name, a) ∈ (e.declared m).aliases := by
  rw [aliasTable, List.flatMap_map, List.mem_flatMap]
  simp

theorem unique_aliasTable_declared {modules : List Module} {a s t : String}
    (hs : (a, s) ∈ aliasTable (modules.map e.declared))
    (ht : (a, t) ∈ aliasTable (modules.map e.declared)) : s = t := by
  obtain ⟨_, _, hs⟩ := mem_aliasTable_declared.mp hs
  obtain ⟨_, _, ht⟩ := mem_aliasTable_declared.mp ht
  have hsame := (mem_aliases_declared.mp hs).1.2.symm.trans (mem_aliases_declared.mp ht).1.2
  exact (String.append_right_inj _).mp hsame

theorem nodup_fileAliases (modules : List ModuleDecl) :
    ((fileAliases modules).map Prod.fst).Nodup := by
  -- of each name the lookup makes one entry or none
  have hnames : ∀ (all : List (String × String)) (names : List String),
      ((names.filterMap fun a => (all.lookup a).map fun target => (a, target)).map
        Prod.fst).Sublist names := by
    intro all names
    induction names with
    | nil => exact .slnil
    | cons a names ih =>
      rw [List.filterMap_cons]
      cases all.lookup a with
      | none => exact ih.cons a
      | some target => exact ih.cons_cons a
  refine (hnames _ _).nodup ?_
  exact (List.mergeSort_perm _ _).nodup_iff.mpr (nodup_eraseDups _)

theorem mem_fileAliases {modules : List ModuleDecl}
    (hunique : ∀ a s t, (a, s) ∈ aliasTable modules → (a, t) ∈ aliasTable modules → s = t)
    {a target : String} :
    (a, target) ∈ fileAliases modules ↔ (a, target) ∈ aliasTable modules := by
  rw [← lookup_eq_some_iff_mem hunique]
  constructor
  · intro h
    obtain ⟨b, _, hb⟩ := List.mem_filterMap.mp h
    obtain ⟨t, ht, hpair⟩ := Option.map_eq_some_iff.mp hb
    obtain ⟨rfl, rfl⟩ := Prod.mk.inj hpair
    exact ht
  · intro h
    refine List.mem_filterMap.mpr ⟨a, ?_, Option.map_eq_some_iff.mpr ⟨target, h, rfl⟩⟩
    have hmem := (lookup_eq_some_iff_mem hunique).mp h
    exact List.mem_mergeSort.mpr (List.mem_eraseDups.mpr (List.mem_map_of_mem (f := Prod.fst) hmem))

/-- The line that declares an alias. -/
def aliasLine (entry : String × String) : String := "type " ++ entry.1 ++ " = " ++ entry.2 ++ ";"

def headLines (e : Emitter) (generatedAt : Timestamp) : List String :=
  ["// Ext type declarations (Typescript 1.4 or newer) generated on " ++ generatedAt.text,
    "// For more information, see: " ++ e.config.projectUrl]

/-- What stands at the top level of a file, in order. -/
def topLevel (e : Emitter) (generatedAt : Timestamp) (modules : List ModuleDecl) : List String :=
  e.headLines generatedAt ++ (fileAliases modules).map aliasLine ++ modules.map ModuleDecl.render

theorem fileText_eq (e : Emitter) (generatedAt : Timestamp) (modules : List ModuleDecl) :
    e.fileText generatedAt modules = "\n".intercalate (e.topLevel generatedAt modules) ++ "\n" := rfl

theorem head?_aliasLine (entry : String × String) : (aliasLine entry).toList.head? = some 't' := by
  simp [aliasLine, String.toList_append]

/-- A text is told from an alias by its first letter. -/
theorem ne_aliasLine {s : String} (h : s.toList.head? ≠ some 't') (entry : String × String) :
    aliasLine entry ≠ s := by
  rintro rfl
  exact h (head?_aliasLine entry)

theorem head?_class {c : ClassDecl} (h : c.doc.toList.head? = some '/') :
    ∃ x, c.render.toList.head? = some x ∧ x ≠ 't' := by
  unfold ClassDecl.render
  cases c.config with
  | none =>
    refine ⟨'/', ?_, by decide⟩
    simp [String.toList_append, h]
  | some i =>
    cases hexported : i.exported with
    | true =>
      refine ⟨'e', ?_, by decide⟩
      simp [ConfigInterface.render, hexported, String.toList_append]
    | false =>
      refine ⟨'i', ?_, by decide⟩
      simp [ConfigInterface.render, hexported, String.toList_append]

theorem head?_intercalate {separator a : String} {l : List String} {x : Char}
    (h : a.toList.head? = some x) : (separator.intercalate (a :: l)).toList.head? = some x := by
  cases l with
  | nil => rw [String.intercalate_singleton, h]
  | cons b l =>
    rw [String.intercalate_cons_cons, String.toList_append, String.toList_append,
      List.append_assoc, List.head?_append, h]
    rfl

theorem head?_module {m : ModuleDecl} (h : ∀ c ∈ m.classes, c.doc.toList.head? = some '/') :
    m.render.toList.head? ≠ some 't' := by
  unfold ModuleDecl.render
  split
  · cases hclasses : m.classes with
    | nil => simp [String.intercalate]
    | cons c classes =>
      obtain ⟨x, hx, hne⟩ := head?_class (h c (hclasses ▸ List.mem_cons_self ..))
      rw [List.map_cons, head?_intercalate hx]
      simpa using hne
  · simp [String.toList_append]

/-- All but the configuration interface and the body of a declaration is the same in every state. -/
theorem exists_run_classDecl (e : Emitter) (c : ClassRef) (s : EmitState) : ∃ config members,
    ((e.classDecl c).run s).1 = ⟨config, docComment c.shortDoc (e.classUrl c),
      !c.moduleName.isEmpty, c.baseName, e.extends? c, members⟩ := by
  unfold classDecl
  split
  all_goals
    simp only [run_bind, run_pure]
    exact ⟨_, _, rfl⟩

theorem doc_of_mem_declared {e : Emitter} {m : Module} {c : ClassDecl}
    (h : c ∈ (e.declared m).classes) : c.doc.toList.head? = some '/' := by
  rw [declared, e.classes_moduleDecl] at h
  obtain ⟨d, _, rfl⟩ := List.mem_map.mp h
  obtain ⟨config, members, hshape⟩ := e.exists_run_classDecl d ⟨some (e.scopeOf m), []⟩
  rw [hshape]
  simp [docComment, String.toList_append]

theorem aliasLine_inj {aliasPrefix s t : String}
    (h : aliasLine (aliasPrefix ++ s, s) = aliasLine (aliasPrefix ++ t, t)) : s = t := by
  -- the name stands twice in its line, so names in equal lines have one length
  have hlength := congrArg String.length h
  simp only [aliasLine, String.length_append] at hlength
  simp only [aliasLine, String.append_assoc, String.append_right_inj] at h
  have hlist := congrArg String.toList h
  simp only [String.toList_append] at hlist
  have hsame : s.toList.length = t.toList.length := by
    rw [String.length_toList, String.length_toList]
    omega
  exact String.toList_inj.mp (List.append_inj_left hlist hsame)

variable {e : Emitter} {m : Module} {name a : String}

theorem eq_of_mem_fileAliases {entry : String × String}
    (h : entry ∈ fileAliases (e.registry.modules.map e.declared)) :
    entry = (e.config.aliasPrefix ++ entry.2, entry.2) := by
  have htable := (mem_fileAliases fun _ _ _ => unique_aliasTable_declared).mp h
  obtain ⟨m, _, hm⟩ := mem_aliasTable_declared.mp htable
  exact Prod.ext (mem_aliases_declared.mp hm).1.2 rfl

/-- An alias of a module is declared once in the file, by a line that no other line at the top level is equal to. -/
theorem alias_declared_once (hm : m ∈ e.registry.modules)
    (h : (name, a) ∈ (e.declared m).aliases) (generatedAt : Timestamp) :
    let modules := e.registry.modules.map e.declared
    ((fileAliases modules).filter fun entry => entry.1 = a) = [(a, name)] ∧
      (e.topLevel generatedAt modules).count (aliasLine (a, name)) = 1 := by
  intro modules
  have hmem : (a, name) ∈ fileAliases modules :=
    (mem_fileAliases fun _ _ _ => unique_aliasTable_declared).mpr
      (mem_aliasTable_declared.mpr ⟨m, hm, h⟩)
  refine ⟨filter_key_eq (nodup_fileAliases modules) hmem, ?_⟩
  have hlines : ((fileAliases modules).map aliasLine).Nodup := by
    refine (List.Nodup.of_map _ (nodup_fileAliases modules)).map_on fun x hx y hy hxy => ?_
    rw [eq_of_mem_fileAliases hx, eq_of_mem_fileAliases hy] at hxy ⊢
    rw [aliasLine_inj hxy]
  -- the lines before are comments, and a module begins with a comment or with another keyword
  have hhead : aliasLine (a, name) ∉ e.headLines generatedAt := by
    intro hline
    have hslash : ∀ s ∈ e.headLines generatedAt, s.toList.head? = some '/' := by
      simp [headLines, String.toList_append]
    exact absurd ((head?_aliasLine _).symm.trans (hslash _ hline)) (by decide)
  have hmodules : aliasLine (a, name) ∉ modules.map ModuleDecl.render := by
    intro hline
    obtain ⟨d, hd, hrender⟩ := List.mem_map.mp hline
    obtain ⟨m, _, rfl⟩ := List.mem_map.mp hd
    exact ne_aliasLine (head?_module fun _ => doc_of_mem_declared) _ hrender.symm
  rw [topLevel, List.count_append, List.count_append, List.count_eq_zero_of_not_mem hhead,
    List.count_eq_zero_of_not_mem hmodules,
    List.count_eq_one_of_mem hlines (List.mem_map_of_mem hmem)]

end Emitter

/-! A module that hides a built-in type and has a class of the name of its alias, and a module below it that does not hide
it. -/

def exampleNamesake : ClassRecord := { name := "Ext.__Date" }

def exampleClock : ClassRecord :=
  { name := "Ext.util.Clock", members := [{ name := "now", body := .property "Date" false }] }

def exampleCalendar : Registry := .ofRecords [exampleDate, exampleNamesake, exampleClock]

namespace Emitter

theorem asks_of_property {e : Emitter} {c : ClassRef} {fuel : Nat} {declaration : String → ClassDecl}
    (h : e.classDecl c =
      convertPlain e.registry (fuel + 1) "Date" >>= fun t => pure (declaration t)) (scope : Scope) :
    Asks (e.classDecl c) scope "Date" (scope.resolve "Date").1 := by
  have hslots : Slot.all "Date" = [⟨"Date", 0⟩] := rfl
  have hconvert : convertPlain e.registry (fuel + 1) "Date" =
      builtin "Date" >>= fun t => pure ("|".intercalate [t ++ Slot.brackets 0]) := by
    rw [convertPlain, hslots, List.mapM_cons, List.mapM_nil,
      convertSlot_of_builtin _ _ _ rfl rfl]
    simp only [bind_assoc, pure_bind]
  rw [h, hconvert]
  refine Asks.bind (Asks.bind (asks_builtin ⟨"Date", rfl⟩ scope) ?_) ?_
  · exact fun _ => isDialogue_pure _
  · exact fun _ => isDialogue_pure _

theorem classDecl_exampleDate :
    (⟨exampleCalendar, {}⟩ : Emitter).classDecl ⟨exampleDate, some 0⟩ =
      convertPlain exampleCalendar 4 "Date" >>= fun t =>
        pure ⟨none, docComment "" (defaultDocUrl ++ "Ext.Date"), true, "Date", none,
          [⟨"since", false, docComment "" (defaultDocUrl ++ "Ext.Date-property-since"),
            .property false t⟩]⟩ := by
  rfl

theorem prints_exampleDate :
    Prints ⟨exampleCalendar, {}⟩ (exampleCalendar.moduleNamed "Ext") "Date" "__Date" := by
  have hclasses : (exampleCalendar.moduleNamed "Ext").classes =
      [⟨exampleDate, some 0⟩, ⟨exampleNamesake, some 1⟩] := rfl
  unfold Prints
  rw [hclasses, List.mapM_cons]
  refine (asks_of_property classDecl_exampleDate _).bind fun _ => ?_
  exact (isDialogue_mapM _ fun c _ => isDialogue_classDecl _ c).bind fun _ => isDialogue_pure _

theorem classDecl_exampleClock :
    (⟨exampleCalendar, {}⟩ : Emitter).classDecl ⟨exampleClock, some 2⟩ =
      convertPlain exampleCalendar 4 "Date" >>= fun t =>
        pure ⟨none, docComment "" (defaultDocUrl ++ "Ext.util.Clock"), true, "Clock", none,
          [⟨"now", false, docComment "" (defaultDocUrl ++ "Ext.util.Clock-property-now"),
            .property false t⟩]⟩ := by
  rfl

theorem prints_exampleClock :
    Prints ⟨exampleCalendar, {}⟩ (exampleCalendar.moduleNamed "Ext.util") "Date" "Date" := by
  have hclasses : (exampleCalendar.moduleNamed "Ext.util").classes = [⟨exampleClock, some 2⟩] := rfl
  unfold Prints
  rw [hclasses, List.mapM_cons]
  refine (asks_of_property classDecl_exampleClock _).bind fun _ => ?_
  exact isDialogue_pure _

end Emitter

namespace Registry

variable {records : List ClassRecord}

open Emitter

/-- An alternative that names a built-in type asks for it and shows the answer. In a module the answer is the type itself
unless a class of the module has its name. Then it is the alias, and the file, in which aliases stand before all
modules, declares this alias once, for the type that it stands for in every module that uses it. -/
theorem builtin_aliases_declared (records : List ClassRecord) (config : EmitterConfig)
    (generatedAt : Timestamp) (s : EmitState) :
    let r := ofRecords records
    let e : Emitter := ⟨r, config⟩
    let modules := ((r.modules.mapM e.moduleDecl).run s).1
    ((e.file generatedAt).run s).1 = "\n".intercalate (e.headLines generatedAt ++
      (fileAliases modules).map aliasLine ++ modules.map ModuleDecl.render) ++ "\n" ∧
    (∀ expand subject (slot : Slot) target, slot.isLiteral = false → builtin? slot.base = some target →
      convertSlot r expand subject slot =
        builtin target >>= fun text => pure (text ++ Slot.brackets slot.depth)) ∧
    ∀ m ∈ r.modules, IsDialogue (m.classes.mapM e.classDecl) ∧
      ∀ target text, e.Prints m target text →
        let name := identifier target
        let a := config.aliasPrefix ++ name
        (¬ m.Declares name → text = target) ∧
        (m.Declares name → text = a ++ Slot.brackets (Slot.markers target.toList) ∧
          ((fileAliases modules).filter fun entry => entry.1 = a) = [(a, name)] ∧
          (e.topLevel generatedAt modules).count (aliasLine (a, name)) = 1 ∧
          ∀ m' ∈ r.modules, ∀ target' text' depth, e.Prints m' target' text' →
            m'.Declares (identifier target') → text' = a ++ Slot.brackets depth →
              identifier target' = name) := by
  intro r e modules
  obtain ⟨hmodules, htext⟩ := e.run_file_declared generatedAt s
  have hrun : modules = r.modules.map e.declared := hmodules
  refine ⟨?_, fun expand subject _ _ => convertSlot_of_builtin r expand subject,
    fun m hm => ⟨e.isDialogue_classes m, fun target text hprints => ?_⟩⟩
  · rw [htext, hrun, fileText_eq, topLevel]
  obtain ⟨hbuiltin, shown, rfl, hhidden, hplain⟩ := hprints.text_eq
  refine ⟨fun h => ?_, fun h => ?_⟩
  · rw [hplain h, identifier_append hbuiltin]
  · have hmem : (identifier target, config.aliasPrefix ++ identifier target) ∈
        (e.declared m).aliases :=
      mem_aliases_declared.mpr ⟨⟨h, rfl⟩, target, _, hprints, rfl⟩
    obtain ⟨honly, hline⟩ := alias_declared_once hm hmem generatedAt
    rw [hrun]
    refine ⟨by rw [hhidden h], honly, hline, fun m' _ target' text' depth hprints' h' htext' => ?_⟩
    -- behind the common prefix stand the names of both types
    obtain ⟨hbuiltin', shown', hshown', hhidden', _⟩ := hprints'.text_eq
    rw [hshown', hhidden' h', String.append_assoc, String.append_assoc,
      String.append_right_inj] at htext'
    exact eq_of_append_brackets hbuiltin' hbuiltin htext'

theorem mem_modules_moduleNamed {r : Registry} {c : ClassRef} (hc : c ∈ r.classes) :
    r.moduleNamed c.moduleName ∈ r.modules :=
  List.mem_map_of_mem (mem_moduleNames hc)

theorem builtin_aliases_declared_exampleDate :
    let e : Emitter := ⟨exampleCalendar, {}⟩
    let m := exampleCalendar.moduleNamed "Ext"
    let modules := ((exampleCalendar.modules.mapM e.moduleDecl).run {}).1
    (m ∈ exampleCalendar.modules ∧ e.Prints m "Date" "__Date" ∧ m.Declares "Date") ∧
      (fileAliases modules).filter (fun entry => entry.1 = "__Date") = [("__Date", "Date")] ∧
      (e.topLevel (.ofUnix 0 0) modules).count "type __Date = Date;" = 1 := by
  intro e m modules
  have hm : m ∈ exampleCalendar.modules :=
    mem_modules_moduleNamed (c := ⟨exampleDate, some 0⟩) (List.mem_cons_self ..)
  have hdeclares : m.Declares "Date" := List.mem_cons_self ..
  obtain ⟨_, _, hall⟩ := builtin_aliases_declared
    [exampleDate, exampleNamesake, exampleClock] {} (.ofUnix 0 0) {}
  obtain ⟨_, honly, hline, _⟩ := ((hall m hm).2 "Date" "__Date" prints_exampleDate).2 hdeclares
  exact ⟨⟨hm, prints_exampleDate, hdeclares⟩, honly, hline⟩

end Registry
end AmbientDecls
