import AmbientDecls.Proofs.Types.PlainTypes

/-! Emissions that go the same way wherever built-in types are shown the same. All that such an emission leaves behind are
the built-in types that it resolved, in order, and the diagnostics that it added. -/

namespace AmbientDecls

/-- A scope after some built-in types were resolved in it. -/
def Scope.resolveAll (scope : Scope) (targets : List String) : Scope :=
  targets.foldl (fun s target => (s.resolve target).2) scope

@[simp] theorem Scope.resolveAll_append (scope : Scope) (targets others : List String) :
    scope.resolveAll (targets ++ others) = (scope.resolveAll targets).resolveAll others :=
  List.foldl_append

theorem Scope.shown_resolveAll (scope : Scope) (targets : List String) :
    (scope.resolveAll targets).shown = scope.shown := by
  induction targets generalizing scope with
  | nil => rfl
  | cons target targets ih =>
    refine (ih _).trans ?_
    funext name
    exact scope.shown_resolve target name

namespace EmitState

/-- A state after some built-in types were resolved and some diagnostics were added. -/
def after (s : EmitState) (targets : List String) (reports : List Diagnostic) : EmitState :=
  ⟨s.scope.map (·.resolveAll targets), s.diagnostics ++ reports⟩

@[simp] theorem after_nil (s : EmitState) : s.after [] [] = s := by
  obtain ⟨_ | scope, diagnostics⟩ := s <;> simp [after, Scope.resolveAll]

@[simp] theorem after_after (s : EmitState) (targets others : List String)
    (reports more : List Diagnostic) :
    (s.after targets reports).after others more = s.after (targets ++ others) (reports ++ more) := by
  obtain ⟨_ | scope, diagnostics⟩ := s <;> simp [after]

@[simp] theorem shownIn_after (s : EmitState) (targets : List String) (reports : List Diagnostic) :
    shownIn (s.after targets reports).scope = shownIn s.scope := by
  obtain ⟨_ | scope, diagnostics⟩ := s
  · rfl
  · exact scope.shown_resolveAll targets

end EmitState

namespace Emit

variable {α β : Type} {shown : String → String}

/-- What an emission comes to: its value, the built-in types that it resolves and the diagnostics that it adds. -/
structure Result (α : Type) where
  value : α
  targets : List String
  reports : List Diagnostic

/-- An emission comes to a result in every state that shows built-in types in one way. -/
def ComesTo (shown : String → String) (act : Emit α) (r : Result α) : Prop :=
  ∀ s : EmitState, shownIn s.scope = shown → act.run s = (r.value, s.after r.targets r.reports)

/-- An emission whose result depends on nothing but the way built-in types are shown. -/
def Steady (act : Emit α) : Prop := ∀ shown, ∃ r, ComesTo shown act r

theorem comesTo_pure (a : α) : ComesTo shown (pure a) ⟨a, [], []⟩ := by
  intro s _
  rw [run_pure, EmitState.after_nil]

theorem ComesTo.bind {act : Emit α} {f : α → Emit β} {r : Result α} {q : Result β}
    (h : ComesTo shown act r) (hf : ComesTo shown (f r.value) q) :
    ComesTo shown (act >>= f) ⟨q.value, r.targets ++ q.targets, r.reports ++ q.reports⟩ := by
  intro s hs
  have hnext : shownIn (s.after r.targets r.reports).scope = shown := by
    rw [EmitState.shownIn_after, hs]
  rw [run_bind, h s hs, hf _ hnext, EmitState.after_after]

theorem ComesTo.map {act : Emit α} {r : Result α} (h : ComesTo shown act r) (f : α → β) :
    ComesTo shown (act >>= fun a => pure (f a)) ⟨f r.value, r.targets, r.reports⟩ := by
  intro s hs
  rw [run_bind, h s hs, run_pure]

/-- A list of emissions comes to all values, with what each resolves and adds in order. -/
theorem comesTo_mapM {f : α → Emit β} {r : α → Result β} (l : List α)
    (h : ∀ a ∈ l, ComesTo shown (f a) (r a)) :
    ComesTo shown (l.mapM f) ⟨l.map fun a => (r a).value, l.flatMap fun a => (r a).targets,
      l.flatMap fun a => (r a).reports⟩ := by
  induction l with
  | nil => exact comesTo_pure []
  | cons a l ih =>
    have hrest := ih fun x hx => h x (List.mem_cons_of_mem a hx)
    intro s hs
    have hnext : shownIn (s.after (r a).targets (r a).reports).scope = shown := by
      rw [EmitState.shownIn_after, hs]
    rw [List.mapM_cons, run_bind, h a (List.mem_cons_self ..) s hs, run_bind, hrest _ hnext,
      EmitState.after_after]
    rfl

theorem steady_pure (a : α) : Steady (pure a) := fun _ => ⟨_, comesTo_pure a⟩

theorem Steady.bind {act : Emit α} {f : α → Emit β} (h : Steady act) (hf : ∀ a, Steady (f a)) :
    Steady (act >>= f) := by
  intro shown
  obtain ⟨r, hr⟩ := h shown
  obtain ⟨q, hq⟩ := hf r.value shown
  exact ⟨_, hr.bind hq⟩

theorem comesTo_warn (kind : DiagnosticKind) (subject message : String) :
    ComesTo shown (warn kind subject message) ⟨(), [], [⟨kind, subject, message⟩]⟩ := by
  rintro ⟨_ | scope, diagnostics⟩ _ <;> rfl

theorem steady_warn (kind : DiagnosticKind) (subject message : String) :
    Steady (warn kind subject message) := fun _ => ⟨_, comesTo_warn kind subject message⟩

theorem steady_builtin {target : String} (h : target.toList.getLast? ≠ some '\n') :
    Steady (builtin target) := by
  intro shown
  refine ⟨⟨shown (Slot.ofPiece target.toList).base ++
    Slot.brackets (Slot.ofPiece target.toList).depth, [target], []⟩, ?_⟩
  rintro s hs
  have hvalue := (yields_builtin h s hs).2
  refine Prod.ext hvalue ?_
  obtain ⟨_ | scope, diagnostics⟩ := s
  · simp [EmitState.after]; rfl
  · simp [EmitState.after]; rfl

end Emit

end AmbientDecls
