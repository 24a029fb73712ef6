import AmbientDecls.Proofs.Types.Aliases
import AmbientDecls.Proofs.Types.Closure

/-! Emissions as dialogues with their scope. An emission reports, asks what built-in types are called, and goes on by the
answers; it does nothing else. So all that it shows of the scope are these answers, and every alias among them is
in the table of the scope from then on. -/

namespace AmbientDecls

open Emit

/-- What a documented name may stand for without being documented itself. -/
def IsBuiltin (target : String) : Prop := ∃ name, builtin? name = some target

theorem ofPiece_of_isBuiltin {target : String} (h : IsBuiltin target) :
    Slot.ofPiece target.toList = ⟨identifier target, Slot.markers target.toList⟩ := by
  obtain ⟨name, hname⟩ := h
  have hend := (builtinTypes_ends _ (mem_builtinTypes hname)).2.2
  rw [← Slot.ofText_eq hend, Slot.ofText, String.length_toList]
  rfl

/-- A built-in type is its name with its array markers. -/
theorem identifier_append {target : String} (h : IsBuiltin target) :
    identifier target ++ Slot.brackets (Slot.markers target.toList) = target := by
  have hwhole := Slot.ofPiece_append target.toList
  rw [ofPiece_of_isBuiltin h, String.ofList_toList] at hwhole
  exact hwhole

theorem identifier_builtinTypes : ∀ e ∈ builtinTypes, '[' ∉ (identifier e.2).toList := by
  decide +kernel

theorem takeWhile_append_brackets {name : List Char} (h : '[' ∉ name) (depth : Nat) :
    (name ++ (Slot.brackets depth).toList).takeWhile (· != '[') = name := by
  rw [List.takeWhile_append_of_pos fun c hc => bne_iff_ne.mpr (ne_of_mem_of_not_mem hc h)]
  cases depth with
  | zero => simp [Slot.brackets]
  | succ depth => simp [Slot.brackets, String.toList_append]

/-- Array markers do not run into the names of built-in types. -/
theorem eq_of_append_brackets {target other : String} (h : IsBuiltin target) (h' : IsBuiltin other)
    {depth depth' : Nat} (heq : identifier target ++ Slot.brackets depth =
      identifier other ++ Slot.brackets depth') : identifier target = identifier other := by
  obtain ⟨name, hname⟩ := h
  obtain ⟨name', hname'⟩ := h'
  have hlist := congrArg (fun s => s.toList.takeWhile (· != '[')) heq
  simp only [String.toList_append] at hlist
  rw [takeWhile_append_brackets (identifier_builtinTypes _ (mem_builtinTypes hname)),
    takeWhile_append_brackets (identifier_builtinTypes _ (mem_builtinTypes hname'))] at hlist
  exact String.toList_inj.mp hlist

theorem Scope.resolve_of_isBuiltin (scope : Scope) {target : String} (h : IsBuiltin target) :
    (scope.resolve target).1 =
      scope.shown (identifier target) ++ Slot.brackets (Slot.markers target.toList) := by
  obtain ⟨name, hname⟩ := h
  have hend := (builtinTypes_ends _ (mem_builtinTypes hname)).2.2
  rw [scope.resolve_fst hend, ofPiece_of_isBuiltin ⟨name, hname⟩]

/-- An emission written out: what it reports, which built-in types it asks for, and how it goes on with the answer. -/
inductive Dialogue (α : Type) where
  | done (a : α)
  | report (d : Diagnostic) (next : Dialogue α)
  | ask (target : String) (known : IsBuiltin target) (next : String → Dialogue α)

namespace Dialogue

variable {α β : Type}

def act : Dialogue α → Emit α
  | done a => pure a
  | report d next => warn d.kind d.subject d.message >>= fun _ => next.act
  | ask target _ next => builtin target >>= fun text => (next text).act

def bind : Dialogue α → (α → Dialogue β) → Dialogue β
  | done a, f => f a
  | report d next, f => report d (next.bind f)
  | ask target known next, f => ask target known fun text => (next text).bind f

/-- The built-in types that are asked for in a scope, in order, each with the answer. -/
def answers : Dialogue α → Scope → List (String × String)
  | done _, _ => []
  | report _ next, scope => next.answers scope
  | ask target _ next, scope =>
    (target, (scope.resolve target).1) ::
      (next (scope.resolve target).1).answers (scope.resolve target).2

theorem act_bind (d : Dialogue α) (f : α → Dialogue β) :
    (d.bind f).act = d.act >>= fun a => (f a).act := by
  induction d with
  | done a => rfl
  | report d next ih =>
    rw [bind, act, ih, act, bind_assoc]
  | ask target known next ih =>
    rw [bind, act, act, bind_assoc]
    simp only [ih]

/-- A dialogue leaves its scope with the aliases of what was asked for. -/
theorem scope_act (d : Dialogue α) (scope : Scope) (diagnostics : List Diagnostic) :
    (d.act.run ⟨some scope, diagnostics⟩).2.scope =
      some (scope.resolveAll ((d.answers scope).map Prod.fst)) := by
  induction d generalizing scope diagnostics with
  | done a => rfl
  | report d next ih =>
    rw [act, run_bind]
    exact ih scope _
  | ask target known next ih =>
    rw [act, run_bind]
    exact ih _ _ _

/-- Every answer is what the scope shows from the beginning to the end. -/
theorem mem_answers {d : Dialogue α} {scope : Scope} {target text : String}
    (h : (target, text) ∈ d.answers scope) : IsBuiltin target ∧
      text = scope.shown (identifier target) ++ Slot.brackets (Slot.markers target.toList) := by
  induction d generalizing scope with
  | done a => cases h
  | report d next ih => exact ih h
  | ask asked known next ih =>
    rcases List.mem_cons.mp h with hfirst | hrest
    · obtain ⟨rfl, rfl⟩ := Prod.mk.inj hfirst
      exact ⟨known, scope.resolve_of_isBuiltin known⟩
    · -- asking makes an entry in the table and leaves what the scope shows
      obtain ⟨hbuiltin, htext⟩ := ih _ hrest
      rw [scope.shown_resolve] at htext
      exact ⟨hbuiltin, htext⟩

theorem mem_answers_bind {d : Dialogue α} {scope : Scope} {answer : String × String}
    (h : answer ∈ d.answers scope) (f : α → Dialogue β) : answer ∈ (d.bind f).answers scope := by
  induction d generalizing scope with
  | done a => cases h
  | report d next ih => exact ih h
  | ask target known next ih =>
    rcases List.mem_cons.mp h with rfl | hrest
    · exact List.mem_cons_self ..
    · exact List.mem_cons_of_mem _ (ih _ hrest)

end Dialogue

namespace Emit

variable {α β : Type}

def IsDialogue (act : Emit α) : Prop := ∃ d : Dialogue α, d.act = act

/-- An emission asks for a built-in type in a scope and is answered with a text. -/
def Asks (act : Emit α) (scope : Scope) (target text : String) : Prop :=
  ∃ d : Dialogue α, d.act = act ∧ (target, text) ∈ d.answers scope

theorem isDialogue_pure (a : α) : IsDialogue (pure a) := ⟨.done a, rfl⟩

theorem IsDialogue.bind {act : Emit α} {f : α → Emit β} (h : IsDialogue act)
    (hf : ∀ a, IsDialogue (f a)) : IsDialogue (act >>= f) := by
  obtain ⟨d, rfl⟩ := h
  choose next hnext using hf
  refine ⟨d.bind next, ?_⟩
  rw [d.act_bind, funext hnext]

theorem IsDialogue.map {act : Emit α} (h : IsDialogue act) (f : α → β) : IsDialogue (f <$> act) := by
  rw [← bind_pure_comp]
  exact h.bind fun a => isDialogue_pure (f a)

theorem isDialogue_warn (kind : DiagnosticKind) (subject message : String) :
    IsDialogue (warn kind subject message) := ⟨.report ⟨kind, subject, message⟩ (.done ()), rfl⟩

theorem isDialogue_builtin {target : String} (h : IsBuiltin target) :
    IsDialogue (builtin target) := ⟨.ask target h .done, rfl⟩

theorem closed_isDialogue : Closed fun _ act => IsDialogue act where
  value := isDialogue_pure
  sequence := IsDialogue.bind
  named hname := isDialogue_builtin ⟨_, hname⟩
  unresolved subject message := isDialogue_warn .unresolvedType subject message
  repeated subject := isDialogue_warn .duplicateParam subject _

theorem isDialogue_mapM {f : α → Emit β} (l : List α) (h : ∀ a ∈ l, IsDialogue (f a)) :
    IsDialogue (l.mapM f) := closed_isDialogue.mapM l h

theorem asks_builtin {target : String} (h : IsBuiltin target) (scope : Scope) :
    Asks (builtin target) scope target (scope.resolve target).1 :=
  ⟨.ask target h .done, rfl, List.mem_cons_self ..⟩

theorem Asks.bind {act : Emit α} {f : α → Emit β} {scope : Scope} {target text : String}
    (h : Asks act scope target text) (hf : ∀ a, IsDialogue (f a)) :
    Asks (act >>= f) scope target text := by
  obtain ⟨d, rfl, hanswer⟩ := h
  choose next hnext using hf
  exact ⟨d.bind next, by rw [d.act_bind, funext hnext], Dialogue.mem_answers_bind hanswer next⟩

/-- Where the answers are the same, a dialogue goes the same way. -/
theorem IsDialogue.steady {act : Emit α} (h : IsDialogue act) : Steady act := by
  obtain ⟨d, rfl⟩ := h
  induction d with
  | done a => exact steady_pure a
  | report d next ih => exact (steady_warn _ _ _).bind fun _ => ih
  | ask target known next ih =>
    obtain ⟨name, hname⟩ := known
    exact (steady_builtin (builtinTypes_ends _ (mem_builtinTypes hname)).2.2).bind ih

/-- From a state on, a dialogue comes to what it yields there. -/
theorem IsDialogue.exists_result {act : Emit α} (h : IsDialogue act) (s : EmitState) :
    ∃ r, ComesTo (shownIn s.scope) act r ∧ r.value = (act.run s).1 := by
  obtain ⟨r, hr⟩ := h.steady (shownIn s.scope)
  exact ⟨r, hr, by rw [hr s rfl]⟩

end Emit

open Emit

variable (r : Registry)

theorem isDialogue_convert (type : String) (ps : Option (List Param)) :
    IsDialogue (convert r type ps) := closed_isDialogue.convert r type ps

end AmbientDecls
