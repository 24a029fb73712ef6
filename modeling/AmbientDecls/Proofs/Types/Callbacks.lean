import Mathlib
import AmbientDecls.Proofs.Types.PlainTypes

/-! Converted types are read back as what the documented types mean. A callback is converted into a text that may stand
alone, and into one in parentheses where alternatives or array markers are around it. -/

namespace AmbientDecls

open Emit Described

variable {records : List ClassRecord} {shown : String → String}

theorem isType_pieces {pieces : List (List Char)} {texts : List String}
    {trees : List Char → TypeTree} (hne : pieces ≠ [])
    (h : List.Forall₂ (fun s text => IsType text (trees s) ∧
      (1 < pieces.length → IsUnion text (trees s))) pieces texts) :
    IsType ("|".intercalate texts) (.union (pieces.map trees)) := by
  by_cases hmany : 1 < pieces.length
  · exact (isUnion_pieces hne (h.imp fun _ _ ⟨_, hunion⟩ => hunion hmany)).isType
  · cases h with
    | nil => exact absurd rfl hne
    | @cons s text pieces texts hs hrest =>
      cases hrest with
      | nil =>
        rw [String.intercalate_singleton]
        exact hs.1.same (TypeTree.same_singleton _).symm
      | cons _ _ => exact absurd (by simp) hmany

theorem isType_callback {f : String} {t : TypeTree} (h : IsType f t) (count depth : Nat) :
    let text := (if 1 < count ∨ depth ≠ 0 then "(" ++ f ++ ")" else f) ++ Slot.brackets depth
    IsType text (.arrays depth t) ∧ (1 < count → IsUnion text (.arrays depth t)) := by
  intro text
  by_cases haround : 1 < count ∨ depth ≠ 0
  · have hoperand : IsOperand text (.arrays depth t) := by
      simp only [text, if_pos haround]
      exact h.parens.brackets depth
    exact ⟨hoperand.isType, fun _ => hoperand.isUnion⟩
  · obtain ⟨hcount, hdepth⟩ := not_or.mp haround
    have hzero : depth = 0 := not_not.mp hdepth
    subst hzero
    have htext : text = f := by
      simp only [text, if_neg haround]
      exact String.append_empty
    rw [htext]
    exact ⟨h, fun hmany => absurd hmany hcount⟩

theorem base_eq_functionType_iff (s : List Char) :
    (Slot.ofText s).base = functionType ↔ (Slot.ofPiece s).base = functionType := by
  by_cases hline : s.getLast? = some '\n'
  · have hlast : functionType.toList.getLast? = some 'n' := by decide
    obtain ⟨hpiece, htext⟩ := Slot.getLast?_of_lineFeed hline
    constructor
    · intro hbase
      rw [hbase, hlast] at htext
      exact absurd htext (by decide)
    · intro hbase
      rw [hbase, hlast] at hpiece
      exact absurd hpiece (by decide)
  · rw [Slot.ofText_eq hline]

theorem depth_of_functionType {s : List Char} (h : (Slot.ofPiece s).base = functionType) :
    (Slot.ofText s).depth = (Slot.ofPiece s).depth := by
  by_cases hline : s.getLast? = some '\n'
  · obtain ⟨hpiece, _⟩ := Slot.getLast?_of_lineFeed hline
    rw [h] at hpiece
    exact absurd hpiece (by decide)
  · rw [Slot.ofText_eq hline]

theorem isName_paramName {name : String} (h : isName name.toList = true) :
    isName (paramName name).toList = true := by
  unfold paramName
  split
  · have hmark : "_".toList.all isNameChar = true := by decide
    rw [String.toList_append]
    exact isName_append h (List.all_eq_true.mp hmark)
  · exact h

theorem Described.name_part (d : Described) (last : Bool) : (d.part last).name = paramName d.name := by
  unfold part
  cases d.element? <;> rfl

def Matches (p : Parameter) (q : Label × TypeTree) : Prop :=
  isName p.name.toList = true ∧ p.label = q.1 ∧ IsType p.type q.2

namespace Registry

variable {r : Registry} (hwf : WellFounded r.BackedBy) {p : Param} (ps : List Param)

theorem arguments_of_return (h : p.name = returnName) :
    arguments (describedAll hwf shown (p :: ps)) = arguments (describedAll hwf shown ps) := by
  rw [arguments_describedAll, arguments_describedAll, Param.arguments_cons_of_isReturn h]

theorem arguments_of_ne (h : p.name ≠ returnName) :
    arguments (describedAll hwf shown (p :: ps)) =
      described hwf shown p :: arguments (describedAll hwf shown ps) := by
  rw [arguments_describedAll, arguments_describedAll, Param.arguments_cons_of_not_isReturn h,
    List.map_cons]

theorem isEmpty_arguments :
    (arguments (describedAll hwf shown ps)).isEmpty = !ps.any fun q => q.name != returnName := by
  rw [arguments_describedAll, List.isEmpty_map, Param.isEmpty_arguments]

theorem returned_of_return (h : p.name = returnName) (t : TypeTree) :
    returned (describedAll hwf shown (p :: ps)) t =
      returned (describedAll hwf shown ps) (typeTree hwf shown p.type p.properties) := by
  rw [returned_describedAll, returned_describedAll, Param.returns_cons_of_isReturn h]
  exact getD_getLast?_cons _ p (Param.returns ps) t

theorem returned_of_ne (h : p.name ≠ returnName) (t : TypeTree) :
    returned (describedAll hwf shown (p :: ps)) t = returned (describedAll hwf shown ps) t := by
  rw [returned_describedAll, returned_describedAll, Param.returns_cons_of_not_isReturn h]

end Registry

mutual

theorem yields_convert (h : Conventional records shown) (type : String)
    (hclean : (Slot.documented type).all Slot.isClean = true) :
    (ps : Option (List Param)) → areClean ps = true →
      Yields shown (convert (Registry.ofRecords records) type ps)
        (IsType · (Registry.typeTree h.wellFounded shown type ps))
  | none, _ => by
    rw [convert, Registry.typeTree_none]
    exact (yields_convertPlain h hclean).imp fun _ hunion => hunion.isType
  | some ps, hps => by
    rw [areClean] at hps
    rw [convert, Registry.typeTree_some, Slot.documented, List.map_map]
    have hslots : Slot.all type = (Slot.piecesOf type).map Slot.ofText := rfl
    rw [hslots, List.mapM_map, List.length_map]
    refine Yields.bind (yields_mapM fun s hs => ?_) fun texts htexts =>
      yields_pure (isType_pieces (Slot.piecesOf_ne_nil type) htexts)
    simp only [base_eq_functionType_iff, Function.comp_apply]
    by_cases hfunction : (Slot.ofPiece s).base = functionType
    · simp only [if_pos hfunction, depth_of_functionType hfunction]
      refine (yields_callbackReturn h ps hps unknownType unknownTree
        (isOperand_name (by decide)).isType).bind fun returns hreturns => ?_
      refine (yields_callbackParams h type ps hps [] false).bind fun params hparams => ?_
      exact yields_pure (isType_callback (isType_function hparams hreturns) _ _)
    · simp only [if_neg hfunction]
      exact (yields_piece h (isClean_of_mem hclean hs)
        (fun b hb => yields_backing h ⟨_, List.mem_map_of_mem hs, hb⟩) type).imp
          fun text hunion => ⟨hunion.isType, fun _ => hunion⟩
termination_by structural ps => ps

theorem yields_convertWith (h : Conventional records shown) (type : String)
    (hclean : (Slot.documented type).all Slot.isClean = true) :
    (p : Param) → areClean p.properties = true →
      Yields shown (convertWith (Registry.ofRecords records) type p)
        (IsType · (Registry.typeTree h.wellFounded shown type p.properties))
  | ⟨_, _, _, properties, _⟩, hp => by
    rw [convertWith]
    exact yields_convert h type hclean properties hp
termination_by structural p => p

theorem yields_callbackReturn (h : Conventional records shown) :
    (ps : List Param) → areAllClean ps = true → ∀ (found : String) (t : TypeTree), IsType found t →
      Yields shown (callbackReturn (Registry.ofRecords records) ps found)
        (IsType · (returned (Registry.describedAll h.wellFounded shown ps) t))
  | [], _, found, t, hfound => by
    rw [callbackReturn]
    exact yields_pure hfound
  | p :: ps, hps, found, t, hfound => by
    rw [areAllClean, Bool.and_eq_true] at hps
    obtain ⟨_, htype, _, hproperties⟩ := isCleanParam_iff.mp hps.1
    rw [callbackReturn]
    by_cases hname : p.name = returnName
    · rw [if_pos hname, Registry.returned_of_return _ _ hname]
      exact (yields_convertWith h p.type htype p hproperties).bind fun text htext =>
        yields_callbackReturn h ps hps.2 text _ htext
    · rw [if_neg hname, Registry.returned_of_ne _ _ hname]
      exact yields_callbackReturn h ps hps.2 found t hfound
termination_by structural ps => ps

theorem yields_callbackParams (h : Conventional records shown) (subject : String) :
    (ps : List Param) → areAllClean ps = true → ∀ (seen : List String) (started : Bool),
      Yields shown (callbackParams (Registry.ofRecords records) subject ps seen started)
        (List.Forall₂ Matches · (marked started (throughRest (firsts Part.name seen
          (parts (arguments (Registry.describedAll h.wellFounded shown ps)))))))
  | [], _, seen, started => by
    rw [callbackParams]
    exact yields_pure .nil
  | p :: ps, hps, seen, started => by
    rw [areAllClean, Bool.and_eq_true] at hps
    obtain ⟨hname, htype, helement, hproperties⟩ := isCleanParam_iff.mp hps.1
    rw [callbackParams]
    by_cases hreturn : p.name = returnName
    · rw [if_pos hreturn, Registry.arguments_of_return _ _ hreturn]
      exact yields_callbackParams h subject ps hps.2 seen started
    · rw [if_neg hreturn, Registry.arguments_of_ne _ _ hreturn, parts]
      have hkey : ((Registry.described h.wellFounded shown p).part
          (arguments (Registry.describedAll h.wellFounded shown ps)).isEmpty).name =
            paramName p.name := by
        rw [Described.name_part, Registry.described_eq]
      by_cases hseen : paramName p.name ∈ seen
      · -- a name that came before: the parameter is dropped on both sides
        rw [firsts_cons_of_mem (by rw [hkey]; exact hseen)]
        simp only [if_pos (List.contains_iff_mem.mpr hseen)]
        exact (yields_warn _ _ _).bind fun _ _ =>
          yields_callbackParams h subject ps hps.2 seen started
      · rw [firsts_cons_of_not_mem (by rw [hkey]; exact hseen), hkey]
        simp only [if_neg (mt List.contains_iff_mem.mp hseen)]
        have hshown := isName_paramName hname
        cases hrest : restElement? p.type with
        | none =>
          have hpart : (Registry.described h.wellFounded shown p).part
              (arguments (Registry.describedAll h.wellFounded shown ps)).isEmpty =
                ⟨paramName p.name, p.optional, false,
                  Registry.typeTree h.wellFounded shown p.type p.properties⟩ := by
            rw [Registry.described_eq, Described.part, hrest]
            rfl
          rw [hpart, throughRest, if_neg Bool.false_ne_true, marked]
          refine (yields_convertWith h p.type htype p hproperties).bind fun text htext => ?_
          refine (yields_callbackParams h subject ps hps.2 (paramName p.name :: seen)
            (started || p.optional)).bind fun more hmore => yields_pure ?_
          exact .cons ⟨hshown, rfl, htext⟩ hmore
        | some element =>
          have hpart : (Registry.described h.wellFounded shown p).part
              (arguments (Registry.describedAll h.wellFounded shown ps)).isEmpty =
                ⟨paramName p.name, p.optional, true,
                  .array (if ps.any fun q => q.name != returnName then unknownTree
                    else Registry.typeTree h.wellFounded shown element p.properties)⟩ := by
            rw [Registry.described_eq, Described.part, hrest, Registry.isEmpty_arguments]
            cases ps.any fun q => q.name != returnName <;> rfl
          -- whatever else is documented behind it, a rest parameter is the last one
          rw [hpart, throughRest, if_pos rfl, marked, marked]
          cases ps.any fun q => q.name != returnName with
          | true =>
            have hunknown : IsOperand (unknownType ++ "[]") (.array unknownTree) :=
              (isOperand_name (by decide)).array
            exact yields_pure (.cons ⟨hshown, rfl, hunknown.isType⟩ .nil)
          | false =>
            refine (yields_convertWith h element (helement element hrest) p hproperties).bind
              fun text htext => yields_pure ?_
            exact .cons ⟨hshown, rfl, htext.arrayOf.isType⟩ .nil
termination_by structural ps => ps

end

/-- A converted type is read as what the documented type means, up to the nesting of unions. -/
theorem read_convert {s : EmitState} (h : Conventional records (shownIn s.scope)) {type : String}
    (htype : (Slot.documented type).all Slot.isClean = true) {ps : Option (List Param)}
    (hps : areClean ps = true) :
    (Reader.read ((convert (Registry.ofRecords records) type ps).run s).1).map TypeTree.flat =
      some (Registry.typeTree h.wellFounded (shownIn s.scope) type ps).flat :=
  (yields_convert h type htype ps hps s rfl).2.read_flat

/-! A class that stands for one of two texts, a callback that takes a date after all others, and a scope in which
dates have an alias. -/

def exampleEnumeration : ClassRecord := { name := "Ext.Mode", backing := some "'on'|'off'" }

def exampleCallback : List Param :=
  [{ name := "return", type := "Ext.Mode" }, { name := "key", type := "String", optional := true },
    { name := "key" }, { name := "dates", type := "Date/Ext.Mode[]..." }]

def exampleState : EmitState := ⟨some ⟨["Date"], "__", []⟩, []⟩

theorem exampleConventional : Conventional [exampleEnumeration] (shownIn exampleState.scope) where
  names := by simp [exampleEnumeration]; decide
  aliases := by simp [exampleEnumeration]
  backings := by simp [exampleEnumeration]; decide
  acyclic := by
    intro b hcycle
    obtain ⟨_, hfirst, _⟩ := Relation.TransGen.head'_iff.mp hcycle
    obtain ⟨_, _, slot, hslot, hnext⟩ := Relation.TransGen.tail'_iff.mp hcycle
    obtain ⟨c, _, hc, hbacking⟩ := exists_class_of_backedBy hfirst
    rw [List.mem_singleton.mp hc] at hbacking
    obtain rfl : "'on'|'off'" = b := Option.some.inj hbacking
    have hliteral : ∀ slot ∈ Slot.documented "'on'|'off'", slot.isLiteral = true := by decide
    rw [Registry.backing?, hliteral slot hslot] at hnext
    cases hnext
  builtins := by decide +kernel

def exampleTree : TypeTree :=
  let mode : TypeTree := .union [.literal "'on'", .literal "'off'"]
  .union [.array (.function [(⟨"key", .optional⟩, .name "string"),
    (⟨"dates", .rest⟩, .array (.union [.name "__Date", .array mode]))] mode), .array mode]

set_option maxRecDepth 4000 in
theorem read_convert_exampleCallback :
    ∃ h : Conventional [exampleEnumeration] (shownIn exampleState.scope),
      (Slot.documented "Function[]|Ext.Mode[]").all Slot.isClean = true ∧
      areClean (some exampleCallback) = true ∧
      (Registry.typeTree h.wellFounded (shownIn exampleState.scope) "Function[]|Ext.Mode[]"
        (some exampleCallback)).flat = exampleTree := by
  have htype : (Slot.documented "Function[]|Ext.Mode[]").all Slot.isClean = true := by decide
  have hps : areClean (some exampleCallback) = true := by decide
  have htext : ((convert (Registry.ofRecords [exampleEnumeration]) "Function[]|Ext.Mode[]"
      (some exampleCallback)).run exampleState).1 =
      "((key?: string, ...dates: (__Date|('on'|'off')[])[]) => 'on'|'off')[]|('on'|'off')[]" := by
    decide +kernel
  have htree : (Reader.read
      "((key?: string, ...dates: (__Date|('on'|'off')[])[]) => 'on'|'off')[]|('on'|'off')[]").map
        TypeTree.flat = some exampleTree := by
    cbv
  have hread := read_convert exampleConventional htype hps
  rw [htext, htree] at hread
  exact ⟨exampleConventional, htype, hps, (Option.some.inj hread).symm⟩

/-- An alias that is no identifier is not read as one name. -/
theorem barred_alias_misread :
    let s : EmitState := ⟨some ⟨["Date"], "a|", []⟩, []⟩
    let r := Registry.ofRecords []
    (∀ b, ¬ Relation.TransGen r.BackedBy b b) ∧
      (Slot.documented "Date[]").all Slot.isClean = true ∧
      ∀ hwf : WellFounded r.BackedBy,
        (Reader.read ((convert r "Date[]" none).run s).1).map TypeTree.flat ≠
          some (Registry.typeTree hwf (shownIn s.scope) "Date[]" none).flat := by
  intro s r
  refine ⟨fun b hcycle => ?_, by decide, fun hwf => ?_⟩
  · obtain ⟨_, hfirst, _⟩ := Relation.TransGen.head'_iff.mp hcycle
    obtain ⟨c, hc, _⟩ := exists_class_of_backedBy hfirst
    cases hc
  · have htext : ((convert r "Date[]" none).run s).1 = "a|Date[]" := by decide +kernel
    have hread : (Reader.read "a|Date[]").map TypeTree.flat =
        some (.union [.name "a", .array (.name "Date")]) := by
      cbv
    have hslots : Slot.documented "Date[]" = [⟨"Date", 1⟩] := by decide
    have htree : r.slotTree (shownIn s.scope) (Registry.plainTree hwf (shownIn s.scope))
        ⟨"Date", 1⟩ = .array (.name "a|Date") := by
      have hliteral : (⟨"Date", 1⟩ : Slot).isLiteral = false := by decide
      have hbuiltin : builtin? "Date" = some "Date" := by decide
      have hname : Slot.ofPiece "Date".toList = ⟨"Date", 0⟩ := by decide
      have hshown : shownIn s.scope "Date" = "a|Date" := by decide
      simp only [Registry.slotTree, hliteral, hbuiltin, builtinTree, hname, hshown]
      rfl
    rw [htext, hread, Registry.typeTree_none, Registry.plainTree_eq, hslots, List.map_singleton,
      htree]
    intro heq
    cases heq

end AmbientDecls
