import AmbientDecls.Proofs.Types.Dialogue

/-! What emissions report. Reports are added behind those that are there, and conversions add two kinds of them only. -/

namespace AmbientDecls

namespace Emit

variable {α β : Type} {P : Diagnostic → Prop}

/-- An emission adds reports of one sort only. -/
def AddsOnly (P : Diagnostic → Prop) (act : Emit α) : Prop :=
  ∀ s, ∃ added, (act.run s).2.diagnostics = s.diagnostics ++ added ∧ ∀ d ∈ added, P d

theorem addsOnly_pure (a : α) : AddsOnly P (pure a) :=
  fun s => ⟨[], (List.append_nil s.diagnostics).symm, fun _ hd => absurd hd List.not_mem_nil⟩

theorem AddsOnly.bind {act : Emit α} {f : α → Emit β} (h : AddsOnly P act) (hf : ∀ a, AddsOnly P (f a)) :
    AddsOnly P (act >>= f) := by
  intro s
  obtain ⟨added, hadded, hP⟩ := h s
  obtain ⟨more, hmore, hP'⟩ := hf (act.run s).1 (act.run s).2
  refine ⟨added ++ more, ?_, fun d hd => (List.mem_append.mp hd).elim (hP d) (hP' d)⟩
  rw [run_bind, hmore, hadded, List.append_assoc]

theorem addsOnly_warn {kind : DiagnosticKind} {subject message : String}
    (h : P ⟨kind, subject, message⟩) : AddsOnly P (warn kind subject message) :=
  fun _ => ⟨[⟨kind, subject, message⟩], rfl, fun _ hd => List.mem_singleton.mp hd ▸ h⟩

theorem addsOnly_builtin (target : String) : AddsOnly P (builtin target) := by
  rintro ⟨_ | scope, diagnostics⟩
  all_goals exact ⟨[], (List.append_nil diagnostics).symm, fun _ hd => absurd hd List.not_mem_nil⟩

theorem closed_addsOnly (hunresolved : ∀ subject message, P ⟨.unresolvedType, subject, message⟩)
    (hrepeated : ∀ subject, P ⟨.duplicateParam, subject, "skipping duplicate callback parameter"⟩) :
    Closed fun _ act => AddsOnly P act where
  value := addsOnly_pure
  sequence := AddsOnly.bind
  named _ := addsOnly_builtin _
  unresolved subject message := addsOnly_warn (hunresolved subject message)
  repeated subject := addsOnly_warn (hrepeated subject)

/-- The reports of what an emission comes to are those that it adds. -/
theorem AddsOnly.of_comesTo {act : Emit α} (h : AddsOnly P act) {s : EmitState} {r : Result α}
    (hr : ComesTo (shownIn s.scope) act r) : ∀ d ∈ r.reports, P d := by
  obtain ⟨added, hadded, hP⟩ := h s
  rw [hr s rfl] at hadded
  rw [List.append_cancel_left hadded]
  exact hP

end Emit
end AmbientDecls
