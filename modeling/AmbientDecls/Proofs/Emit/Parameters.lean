import AmbientDecls.Proofs.Emit.ParameterRule
import AmbientDecls.Proofs.Types.Reports

/-! The parameters of methods. Their lists are legal: no name stands twice, a rest parameter is the last one, and no required
parameter follows an optional one. Nothing is lost but what the documented rules drop. -/

namespace AmbientDecls

open Emit

/-- The rule of a parameter list, where it is known what conversions come to. -/
def ParamList.rule (l : ParamList) (conv : String → Option (List Param) → Result String) :
    ParamRule where
  conv := conv
  fixed? name := if name = configParam then l.config else none
  repeated name := ⟨.duplicateParam, l.subject ++ "#" ++ name, "skipping duplicate parameter"⟩

theorem ParamList.comesTo_build {shown : String → String} {l : ParamList}
    {conv : String → Option (List Param) → Result String}
    (hconv : ∀ type properties, ComesTo shown (convert l.r type properties) (conv type properties))
    (ps : List Param) (seen : List String) (optional : Bool) :
    ComesTo shown (l.build ps seen optional) ((l.rule conv).declared ps seen optional) := by
  induction ps generalizing seen optional with
  | nil => exact comesTo_pure []
  | cons p ps ih =>
    unfold ParamList.build ParamRule.declared
    simp only
    by_cases h : p.shown ∈ seen
    · have hcontains : seen.contains (paramName p.name) = true := List.contains_iff_mem.mpr h
      rw [if_pos h, if_pos hcontains]
      exact (comesTo_warn _ _ _).bind (ih seen optional)
    · have hcontains : ¬ seen.contains (paramName p.name) = true := mt List.contains_iff_mem.mp h
      rw [if_neg h, if_neg hcontains]
      unfold Param.isRest Param.element
      cases restElement? p.type with
      | some element =>
        by_cases hlast : ps.isEmpty = true
        · simp only [hlast]
          exact (hconv element p.properties).map _
        · simp only [hlast]
          exact comesTo_pure _
      | none =>
        unfold ParamRule.typed rule
        cases hfixed : (if p.name = configParam then l.config else none) with
        | some t =>
          simp only [hfixed]
          exact (ih _ _).map _
        | none =>
          simp only [hfixed]
          refine ComesTo.bind (q := ⟨_, _, _⟩) (hconv p.type p.properties) ?_
          exact (ih _ _).map _

namespace Parameter

/-- What a declaration file may hold: no name twice, nothing behind a rest parameter, which has no mark of its own, and no
required parameter behind an optional one. -/
structure Legal (ps : List Parameter) : Prop where
  names : (ps.map Parameter.name).Nodup
  last : ps.Pairwise fun q _ => q.rest = false
  unmarked : ∀ q ∈ ps, q.rest = true → q.optional = false
  trailing : ps.Pairwise fun q q' => q.optional = true → q'.rest = true ∨ q'.optional = true

variable (text element : Param → String) (optional : Bool) (ps rest : List Param)

theorem map_name_marked : (marked text optional ps).map Parameter.name = ps.map Param.shown := by
  have hentry : ∀ mark, Parameter.name ∘ entry text mark = Param.shown := fun _ => rfl
  rw [marked, List.map_append, List.map_map, List.map_map, hentry, hentry, ← List.map_append,
    List.takeWhile_append_dropWhile]

theorem map_name_takingIn :
    (takingIn element rest).map Parameter.name = (rest.take 1).map Param.shown := by
  cases rest <;> rfl

theorem rest_of_mem_marked : ∀ q ∈ marked text optional ps, q.rest = false := by
  intro q hq
  rcases List.mem_append.mp hq with h | h
  · obtain ⟨p, _, rfl⟩ := List.mem_map.mp h
    rfl
  · obtain ⟨p, _, rfl⟩ := List.mem_map.mp h
    rfl

theorem pairwise_marked :
    (marked text optional ps).Pairwise fun q q' => q.optional = true → q'.optional = true := by
  refine List.pairwise_append.mpr ⟨?_, ?_, fun q hq q' _ hmark => ?_⟩
  · exact List.pairwise_map.mpr (List.pairwise_of_forall fun _ _ hmark => absurd hmark Bool.false_ne_true)
  · exact List.pairwise_map.mpr (List.pairwise_of_forall fun _ _ _ => rfl)
  · obtain ⟨p, _, rfl⟩ := List.mem_map.mp hq
    exact absurd hmark Bool.false_ne_true

theorem mem_takingIn {q : Parameter} (h : q ∈ takingIn element rest) :
    q.rest = true ∧ q.optional = false := by
  cases rest with
  | nil => cases h
  | cons p behind =>
    obtain rfl := List.mem_singleton.mp h
    exact ⟨rfl, rfl⟩

variable {ps rest}

theorem legal_marked_takingIn (h : ((ps ++ rest.take 1).map Param.shown).Nodup) :
    Legal (marked text optional ps ++ takingIn element rest) where
  names := by
    rw [List.map_append, map_name_marked, map_name_takingIn, ← List.map_append]
    exact h
  last := by
    refine List.pairwise_append.mpr ⟨?_, ?_, fun q hq _ _ => rest_of_mem_marked text optional ps q hq⟩
    · exact (List.pairwise_of_forall_mem_list fun q hq _ _ => rest_of_mem_marked text optional ps q hq)
    · cases rest with
      | nil => exact List.Pairwise.nil
      | cons p behind => exact List.pairwise_singleton _ _
  unmarked q hq hrest := by
    rcases List.mem_append.mp hq with h | h
    · exact absurd ((rest_of_mem_marked text optional ps q h).symm.trans hrest) Bool.false_ne_true
    · exact (mem_takingIn element rest h).2
  trailing := by
    refine List.pairwise_append.mpr ⟨?_, ?_, fun q _ q' hq' _ => Or.inl (mem_takingIn element rest hq').1⟩
    · exact (pairwise_marked text optional ps).imp fun h hmark => Or.inr (h hmark)
    · cases rest with
      | nil => exact List.Pairwise.nil
      | cons p behind => exact List.pairwise_singleton _ _

end Parameter

/-- The reports of methods about parameters whose name came before. -/
def isRepeatedParam (d : Diagnostic) : Bool :=
  d.kind = .duplicateParam && d.message = "skipping duplicate parameter"

/-- Conversions do not report in these words. -/
theorem addsOnly_convert (r : Registry) (type : String) (properties : Option (List Param)) :
    AddsOnly (fun d => isRepeatedParam d = false) (convert r type properties) := by
  refine (closed_addsOnly (fun subject message => ?_) fun subject => ?_).convert r type properties
  · simp [isRepeatedParam]
  · simp [isRepeatedParam]

namespace ParamList

variable (l : ParamList) (s : EmitState)

/-- The type that a parameter is declared with in a state. -/
def typeText (p : Param) : String :=
  match if p.name = configParam then l.config else none with
  | some t => t
  | none => ((convert l.r p.type p.properties).run s).1

def elementText (p : Param) : String := ((convert l.r p.element p.properties).run s).1

open Param Parameter

/-- A list of parameters in a state: what is declared, and what is reported of names that came before. -/
theorem run_build (ps : List Param) :
    ((l.build ps [] false).run s).1 = marked (l.typeText s) false (firsts shown [] (split [] ps).1) ++
      takingIn (l.elementText s) (split [] ps).2 ∧
    ∃ added, ((l.build ps [] false).run s).2.diagnostics = s.diagnostics ++ added ∧
      added.filter isRepeatedParam = (repeats shown [] (split [] ps).1).map fun p =>
        ⟨.duplicateParam, l.subject ++ "#" ++ p.shown, "skipping duplicate parameter"⟩ := by
  choose conv hconv hvalue using fun type ps => (isDialogue_convert l.r type ps).exists_result s
  have htyped : (fun p => ((l.rule conv).typed p).value) = l.typeText s := by
    funext p
    simp only [ParamRule.typed, rule, typeText]
    cases (if p.name = configParam then l.config else none) with
    | some t => rfl
    | none => exact hvalue p.type p.properties
  have helement : (fun p => ((l.rule conv).conv p.element p.properties).value) = l.elementText s :=
    funext fun p => hvalue p.element p.properties
  rw [l.comesTo_build hconv ps [] false s rfl]
  refine ⟨?_, _, rfl, ?_⟩
  · rw [ParamRule.value_declared, htyped, helement]
  · refine ParamRule.reports_declared (fun _ => rfl) (fun type properties => ?_) ps [] false
    exact (addsOnly_convert l.r type properties).of_comesTo (hconv type properties)

end ParamList

namespace Emitter

/-- The parameter list of a method is legal and holds, in their order, all parameters that are documented before the first
rest parameter with a new name, and that one. Only those whose name came before are dropped, and each of them is reported
once. Marks begin at the first optional parameter that is kept, and the elements of the rest parameter are known if
nothing is documented behind it. -/
theorem parameters_legal (e : Emitter) (c : ClassRef) (m : Member) (ps : List Param) (s : EmitState) :
    let run := (e.parameters c m ps).run s
    let type := fun p : Param => if m.isConstructor = true ∧ p.name = "config" then c.configName
      else ((convert e.registry p.type p.properties).run s).1
    let element := fun p : Param => ((convert e.registry p.element p.properties).run s).1
    Parameter.Legal run.1 ∧ (run.1.map Parameter.name).Sublist (ps.map Param.shown) ∧
    ∃ front rest, ps = front ++ rest ∧
      let kept := firsts Param.shown [] front
      let dropped := repeats Param.shown [] front
      (∀ p ∈ kept, p.isRest = false) ∧
      (∀ p behind, rest = p :: behind → p.isRest = true ∧ p.shown ∉ front.map Param.shown) ∧
      (∀ before p after, front = before ++ p :: after →
        (p.shown ∉ before.map Param.shown → p ∈ kept) ∧
          (p.shown ∈ before.map Param.shown → p ∈ dropped)) ∧
      run.1 = Parameter.marked type false kept ++ Parameter.takingIn element rest ∧
      ∃ added, run.2.diagnostics = s.diagnostics ++ added ∧
        added.filter isRepeatedParam = dropped.map fun p => ⟨.duplicateParam,
          c.name ++ "." ++ m.name ++ "#" ++ p.shown, "skipping duplicate parameter"⟩ := by
  intro run type element
  let l : ParamList := ⟨e.registry, c.name ++ "." ++ m.name,
    if m.isConstructor then some c.configName else none⟩
  have htype : l.typeText s = type := by
    funext p
    simp only [ParamList.typeText, l, type, configParam]
    cases m.isConstructor <;> by_cases hname : p.name = "config" <;> simp [hname]
  obtain ⟨hdeclared, hreports⟩ := l.run_build s ps
  rw [htype] at hdeclared
  have hsplit := Param.split_append [] ps
  have hhead : ∀ p behind, (Param.split [] ps).2 = p :: behind →
      p.isRest = true ∧ p.shown ∉ (Param.split [] ps).1.map Param.shown := by
    intro p behind hbehind
    obtain ⟨hrest, _, hfront⟩ := Param.isRest_of_split hbehind
    exact ⟨hrest, hfront⟩
  have hlegal : run.1 = Parameter.marked type false (firsts Param.shown [] (Param.split [] ps).1) ++
      Parameter.takingIn element (Param.split [] ps).2 := hdeclared
  refine ⟨?_, ?_, (Param.split [] ps).1, (Param.split [] ps).2, hsplit.symm,
    Param.isRest_of_mem_firsts [] ps, hhead, fun before p after hfront => ⟨fun hnew => ?_, fun hold => ?_⟩,
    hdeclared, hreports⟩
  · rw [hlegal]
    exact Parameter.legal_marked_takingIn type element false (Param.nodup_map_shown [] ps)
  · rw [hlegal, List.map_append, Parameter.map_name_marked, Parameter.map_name_takingIn,
      ← List.map_append]
    refine List.Sublist.map _ (((firsts_sublist _ _ _).append (List.take_sublist 1 _)).trans ?_)
    rw [hsplit]
  · rw [hfront]
    exact mem_firsts_of_new after List.not_mem_nil hnew
  · rw [hfront]
    exact mem_repeats_of_old after (Or.inr hold)

end Emitter
end AmbientDecls
