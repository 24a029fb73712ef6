import AmbientDecls.Proofs.Emit.Parameters

/-! The parameters of callbacks. Descriptors of what a callback returns may stand anywhere; the others are a parameter list
under the rule that methods follow. -/

namespace AmbientDecls

open Emit

open Param

theorem convertWith_eq (r : Registry) (type : String) (p : Param) :
    convertWith r type p = convert r type p.properties := by
  cases p
  rw [convertWith]

variable {shown : String → String} {r : Registry}
  {conv : String → Option (List Param) → Result String}

/-- The rule of the parameters of a callback, where it is known what conversions come to. -/
def callbackRule (conv : String → Option (List Param) → Result String) (subject : String) :
    ParamRule where
  conv := conv
  fixed? _ := none
  repeated name :=
    ⟨.duplicateParam, subject ++ "#" ++ name, "skipping duplicate callback parameter"⟩

/-- What a callback returns: what the last descriptor for it comes to. All of them are converted. -/
def returnResult (conv : String → Option (List Param) → Result String) (found : String)
    (ps : List Param) : Result String where
  value := ((ps.getLast?).map fun p => (conv p.type p.properties).value).getD found
  targets := ps.flatMap fun p => (conv p.type p.properties).targets
  reports := ps.flatMap fun p => (conv p.type p.properties).reports

theorem comesTo_callbackReturn
    (hconv : ∀ type properties, ComesTo shown (convert r type properties) (conv type properties))
    (ps : List Param) (found : String) :
    ComesTo shown (callbackReturn r ps found) (returnResult conv found (returns ps)) := by
  induction ps generalizing found with
  | nil =>
    rw [callbackReturn]
    exact comesTo_pure found
  | cons p ps ih =>
    rw [callbackReturn]
    by_cases h : p.name = returnName
    · rw [if_pos h, returns_cons_of_isReturn h, convertWith_eq]
      have hvalue : (returnResult conv found (p :: returns ps)).value =
          (returnResult conv (conv p.type p.properties).value (returns ps)).value :=
        getD_getLast?_cons (fun q : Param => (conv q.type q.properties).value) p (returns ps) found
      have hall := (hconv p.type p.properties).bind (ih (conv p.type p.properties).value)
      rw [← hvalue] at hall
      exact hall
    · rw [if_neg h, returns_cons_of_not_isReturn h]
      exact ih found

/-- The parameters of a callback are those of a list without the descriptors of what it returns. -/
theorem comesTo_callbackParams
    (hconv : ∀ type properties, ComesTo shown (convert r type properties) (conv type properties))
    (subject : String) (ps : List Param) (seen : List String) (optional : Bool) :
    ComesTo shown (callbackParams r subject ps seen optional)
      ((callbackRule conv subject).declared (arguments ps) seen optional) := by
  induction ps generalizing seen optional with
  | nil =>
    rw [callbackParams]
    exact comesTo_pure []
  | cons p ps ih =>
    rw [callbackParams]
    by_cases hreturn : p.name = returnName
    · rw [if_pos hreturn, arguments_cons_of_isReturn hreturn]
      exact ih seen optional
    · rw [if_neg hreturn, arguments_cons_of_not_isReturn hreturn, ParamRule.declared]
      simp only
      by_cases h : p.shown ∈ seen
      · have hcontains : seen.contains (paramName p.name) = true := List.contains_iff_mem.mpr h
        rw [if_pos h, if_pos hcontains]
        exact (comesTo_warn _ _ _).bind (ih seen optional)
      · have hcontains : ¬ seen.contains (paramName p.name) = true :=
          mt List.contains_iff_mem.mp h
        rw [if_neg h, if_neg hcontains, isEmpty_arguments]
        unfold Param.isRest Param.element
        cases restElement? p.type with
        | some element =>
          -- nothing but descriptors of what is returned may stand behind the last parameter
          cases ps.any fun q => q.name != returnName with
          | true => exact comesTo_pure _
          | false =>
            simp only [convertWith_eq]
            exact (hconv element p.properties).map _
        | none =>
          simp only [convertWith_eq]
          refine ComesTo.bind (q := ⟨_, _, _⟩) (hconv p.type p.properties) ?_
          exact (ih _ _).map _

/-- A callback comes to what it returns, and then to its parameters. -/
theorem comesTo_callback
    (hconv : ∀ type properties, ComesTo shown (convert r type properties) (conv type properties))
    (ps : List Param) :
    let returned := returnResult conv unknownType (returns ps)
    let params := (callbackRule conv functionType).declared (arguments ps) [] false
    ComesTo shown (convert r functionType (some ps))
      ⟨functionText params.value returned.value, returned.targets ++ params.targets,
        returned.reports ++ params.reports⟩ := by
  intro returned params
  have hslots : Slot.all functionType = [⟨functionType, 0⟩] := by decide
  have hact : convert r functionType (some ps) = callbackReturn r ps unknownType >>= fun returns =>
      callbackParams r functionType ps [] false >>= fun params =>
        pure (functionText params returns) := by
    rw [convert, hslots]
    simp [Slot.brackets]
  rw [hact]
  refine (comesTo_callbackReturn hconv ps unknownType).bind (q := ⟨_, _, _⟩) ?_
  exact (comesTo_callbackParams hconv functionType ps [] false).map _

theorem arguments_of_forall {ps : List Param} (h : ∀ p ∈ ps, p.name ≠ returnName) :
    arguments ps = ps ∧ returns ps = [] :=
  ⟨List.filter_eq_self.mpr fun p hp => by simp [isReturn, h p hp],
    List.filter_eq_nil_iff.mpr fun p hp => by simp [isReturn, h p hp]⟩

theorem functionText_unknownType (params : List Parameter) :
    functionText params unknownType = "(" ++ Parameter.renderAll params ++ ") => any" := by
  have hend : ") => any" = ") => " ++ unknownType := by decide
  rw [functionText, hend, ← String.append_assoc]

/-- The parameters of a callback are declared as those of a method, without the descriptors of what is returned; the last of
these gives the return type. Where there is none, both leave the same scope and report in the same kinds, in order. -/
theorem Emitter.callback_parameters_eq (e : Emitter) (c : ClassRef) {m : Member}
    (hm : m.isConstructor = false) (s : EmitState) (ps : List Param) :
    let callback := (convert e.registry "Function" (some ps)).run s
    let method := (e.parameters c m ps).run s
    let others := (e.parameters c m (ps.filter fun p => !p.name == "return")).run s
    let returned := ((ps.filter fun p => p.name == "return").getLast?.map fun p =>
      ((convert e.registry p.type p.properties).run s).1).getD "any"
    callback.1 = "(" ++ Parameter.renderAll others.1 ++ ") => " ++ returned ∧
    ((∀ p ∈ ps, p.name ≠ "return") →
      callback.1 = "(" ++ Parameter.renderAll method.1 ++ ") => any" ∧
      callback.2.scope = method.2.scope ∧
      ∃ added added', callback.2.diagnostics = s.diagnostics ++ added ∧
        method.2.diagnostics = s.diagnostics ++ added' ∧
        added.map Diagnostic.kind = added'.map Diagnostic.kind) := by
  intro callback method others returned
  let l : ParamList := ⟨e.registry, c.name ++ "." ++ m.name,
    if m.isConstructor then some c.configName else none⟩
  choose conv hconv hvalue using fun type ps =>
    (isDialogue_convert e.registry type ps).exists_result s
  have hfixed : (callbackRule conv functionType).fixed? = (l.rule conv).fixed? := by
    funext name
    simp [callbackRule, ParamList.rule, l, hm]
  have hcallback : callback = _ := comesTo_callback hconv ps s rfl
  have hmethod : method = _ := l.comesTo_build hconv ps [] false s rfl
  have hothers : others = _ := l.comesTo_build hconv (arguments ps) [] false s rfl
  have hrule := fun qs => ParamRule.declared_congr (g := callbackRule conv functionType)
    (k := l.rule conv) rfl hfixed (fun _ => rfl) qs [] false
  refine ⟨?_, fun hnone => ?_⟩
  · have hreturned : (returnResult conv unknownType (returns ps)).value = returned := by
      simp only [returnResult, hvalue]
      rfl
    rw [hcallback, hothers, ← (hrule _).1, functionText, hreturned]
  · obtain ⟨harguments, hreturns⟩ := arguments_of_forall hnone
    obtain ⟨hparams, htargets, hkinds⟩ := hrule ps
    rw [harguments, hreturns] at hcallback
    rw [hcallback, hmethod, ← hparams]
    refine ⟨functionText_unknownType _, ?_, _, _, rfl, rfl, hkinds⟩
    · rw [EmitState.after, EmitState.after, ← htargets]
      rfl

/-- Parameters of which one is documented twice, the second time under the word that the first is renamed to. -/
def exampleHandlerParams : List Param :=
  [{ name := "class", type := "Ext.Missing" }, { name := "class_", type := "Ext.Missing" },
    { name := "at", type := "Date", optional := true },
    { name := "each", type := "Function", properties := some [{ name := "n", type := "Number" }] },
    { name := "rest", type := "String...", optional := true }]

theorem Emitter.callback_parameters_eq_exampleHandler :
    let e : Emitter := ⟨Registry.ofRecords [], {}⟩
    let c : ClassRef := ⟨{ name := "Ext.Host" }, none⟩
    let m : Member := { name := "on", body := .method exampleHandlerParams none }
    let s : EmitState := ⟨some ⟨["Date"], "__", []⟩, []⟩
    m.isConstructor = false ∧ (∀ p ∈ exampleHandlerParams, p.name ≠ "return") ∧
      ((convert e.registry "Function" (some exampleHandlerParams)).run s).1 =
        "(class_: any, at?: __Date, each?: (n: number) => any, ...rest: string[]) => any" ∧
      ((convert e.registry "Function" (some exampleHandlerParams)).run s).2.scope =
        ((e.parameters c m exampleHandlerParams).run s).2.scope ∧
      ((convert e.registry "Function" (some exampleHandlerParams)).run s).2.diagnostics.map
        Diagnostic.kind = [.unresolvedType, .duplicateParam] := by
  intro e c m s
  have hm : m.isConstructor = false := rfl
  have hnone : ∀ p ∈ exampleHandlerParams, p.name ≠ "return" := by decide
  have hparams : Parameter.renderAll ((e.parameters c m exampleHandlerParams).run s).1 =
      "class_: any, at?: __Date, each?: (n: number) => any, ...rest: string[]" := by
    decide +kernel
  have hreports : ((e.parameters c m exampleHandlerParams).run s).2.diagnostics.map Diagnostic.kind =
      [.unresolvedType, .duplicateParam] := by
    decide +kernel
  obtain ⟨htext, hscope, added, added', hadded, hadded', hkinds⟩ :=
    (Emitter.callback_parameters_eq e c hm s exampleHandlerParams).2 hnone
  rw [hparams] at htext
  rw [hadded'] at hreports
  rw [hadded]
  exact ⟨hm, hnone, htext.trans (by decide +kernel), hscope, hkinds.trans hreports⟩

end AmbientDecls
