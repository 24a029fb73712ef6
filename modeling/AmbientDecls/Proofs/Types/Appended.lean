import AmbientDecls.Proofs.Types.Dialogue
import AmbientDecls.Proofs.Types.Separated

/-! Conversion alternative by alternative. An alternative comes to the same text, the same built-in types and the same reports
wherever it stands, but for the type that its reports are about. So a type that is joined of two others is converted
into what they are converted into one after the other. -/

namespace AmbientDecls

open Emit

/-- What a report says, without the type that it is about. -/
def Diagnostic.said (d : Diagnostic) : DiagnosticKind × String := (d.kind, d.message)

theorem exists_alternative (r : Registry) (shown : String → String) {expand : String → Emit String}
    (hexpand : ∀ b, Steady (expand b)) (slot : Slot) :
    ∃ text targets said, ∀ subject, ∃ reports, reports.map Diagnostic.said = said ∧
      ComesTo shown (convertSlot r expand subject slot) ⟨text, targets, reports⟩ := by
  cases r.reading slot with
  | literal hliteral =>
    simp only [convertSlot_of_isLiteral r expand _ hliteral]
    exact ⟨_, [], [], fun _ => ⟨[], rfl, comesTo_pure _⟩⟩
  | builtin target hliteral hbuiltin =>
    obtain ⟨q, hq⟩ := steady_builtin (builtinTypes_ends _ (mem_builtinTypes hbuiltin)).2.2 shown
    simp only [convertSlot_of_builtin r expand _ hliteral hbuiltin]
    exact ⟨_, q.targets, _, fun _ => ⟨q.reports, rfl, hq.map _⟩⟩
  | unknown hliteral hbuiltin hfind =>
    simp only [convertSlot_of_find?_eq_none r expand _ hliteral hbuiltin hfind]
    exact ⟨unknownType, [], [(.unresolvedType, _)], fun subject =>
      ⟨[⟨.unresolvedType, subject, _⟩], rfl, (comesTo_warn _ subject _).map _⟩⟩
  | named c hliteral hbuiltin hfind hbacking =>
    simp only [convertSlot_of_find? hliteral hbuiltin hfind hbacking]
    exact ⟨_, [], [], fun _ => ⟨[], rfl, comesTo_pure _⟩⟩
  | enumeration b hbacking =>
    obtain ⟨q, hq⟩ := hexpand b shown
    simp only [convertSlot_of_backing? r expand _ hbacking]
    exact ⟨_, q.targets, _, fun _ => ⟨q.reports, rfl, hq.map _⟩⟩

/-- Every alternative has one text, and a type without descriptors is converted into the texts of its alternatives. -/
theorem exists_texts (r : Registry) (shown : String → String) :
    ∃ (text : Slot → String) (targets : Slot → List String)
      (said : Slot → List (DiagnosticKind × String)), ∀ type, ∃ reports : List Diagnostic,
        reports.map Diagnostic.said = (Slot.all type).flatMap said ∧
        ComesTo shown (convert r type none) ⟨"|".intercalate ((Slot.all type).map text),
          (Slot.all type).flatMap targets, reports⟩ := by
  have hexpand : ∀ b, Steady (convertPlain r r.size b) := fun b =>
    (closed_isDialogue.convertPlain r r.size b).steady
  choose text targets said hslot using exists_alternative r shown hexpand
  refine ⟨text, targets, said, fun type => ?_⟩
  choose reports hsaid hcomes using fun slot => hslot slot type
  refine ⟨(Slot.all type).flatMap reports, ?_, ?_⟩
  · rw [List.map_flatMap]
    exact List.flatMap_congr fun slot _ => hsaid slot
  · rw [convert, Registry.typeFuel, convertPlain]
    exact (comesTo_mapM (Slot.all type) fun slot _ => hcomes slot).map _

/-- A text and a state are what two types come to one after the other: the text of the first, a bar and the text of the
second, in which each alternative has its own text, and their scope and all that their reports say. -/
structure Registry.ConvertsInTurn (r : Registry) (a b : String) (s : EmitState) (text : String) (t : EmitState) :
    Prop where
  text_eq : text = ((convert r a none).run s).1 ++ "|" ++
    ((convert r b none).run ((convert r a none).run s).2).1
  alternatives : ∃ shown : Slot → String,
    ((convert r a none).run s).1 = "|".intercalate ((Slot.all a).map shown) ∧
    ((convert r b none).run ((convert r a none).run s).2).1 = "|".intercalate ((Slot.all b).map shown) ∧
    text = "|".intercalate ((Slot.all a ++ Slot.all b).map shown)
  scope_eq : t.scope = ((convert r b none).run ((convert r a none).run s).2).2.scope
  said_eq : t.diagnostics.map Diagnostic.said =
    ((convert r b none).run ((convert r a none).run s).2).2.diagnostics.map Diagnostic.said

theorem convertsInTurn (r : Registry) {a b type : String} {sep : Char} (hsep : Slot.isSeparator sep = true)
    (htype : type.toList.filter (· != ' ') = (a.toList ++ sep :: b.toList).filter (· != ' '))
    (s : EmitState) :
    r.ConvertsInTurn a b s ((convert r type none).run s).1 ((convert r type none).run s).2 := by
  obtain ⟨text, targets, said, hconvert⟩ := exists_texts r (shownIn s.scope)
  obtain ⟨reports, hreports, ha⟩ := hconvert a
  obtain ⟨more, hmore, hb⟩ := hconvert b
  obtain ⟨all, hall, hboth⟩ := hconvert type
  have hslots := Slot.all_append hsep htype
  rw [hslots] at hall hboth
  have hfirst := ha s rfl
  have hsecond := hb ((convert r a none).run s).2 (by rw [hfirst, EmitState.shownIn_after])
  have hrun := hboth s rfl
  rw [hfirst, EmitState.after_after] at hsecond
  refine ⟨?_, ⟨text, ?_, ?_, ?_⟩, ?_, ?_⟩
  · rw [hrun, hfirst, hsecond, List.map_append]
    refine Text.intercalate_append "|" ?_ ?_
    · exact mt List.map_eq_nil_iff.mp (Slot.all_ne_nil a)
    · exact mt List.map_eq_nil_iff.mp (Slot.all_ne_nil b)
  · rw [hfirst]
  · rw [hfirst, hsecond]
  · rw [hrun]
  · rw [hrun, hfirst, hsecond, List.flatMap_append]
    rfl
  · rw [hrun, hfirst, hsecond]
    simp only [EmitState.after, List.map_append, hall, hreports, hmore, List.flatMap_append]

end AmbientDecls
