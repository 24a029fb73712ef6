import AmbientDecls.Proofs.Types.Emission
import AmbientDecls.Proofs.Types.Reading

/-! What all conversions have in common. A conversion is a sequence of built-in types that it resolves and of reports of two
kinds, so a property of emissions that these have and that sequences keep is a property of every conversion. -/

namespace AmbientDecls

/-- A property that what conversions are made of has, and that is kept when emissions follow each other. -/
structure Emit.Closed (Q : (α : Type) → Emit α → Prop) : Prop where
  value : ∀ {α : Type} (a : α), Q α (pure a)
  sequence : ∀ {α β : Type} {act : Emit α} {f : α → Emit β},
    Q α act → (∀ a, Q β (f a)) → Q β (act >>= f)
  named : ∀ {name target : String}, builtin? name = some target → Q String (builtin target)
  unresolved : ∀ subject message, Q Unit (warn .unresolvedType subject message)
  repeated : ∀ subject, Q Unit (warn .duplicateParam subject "skipping duplicate callback parameter")

namespace Emit.Closed

variable {Q : (α : Type) → Emit α → Prop}

theorem mapM (h : Closed Q) {α β : Type} {f : α → Emit β} (l : List α) (hf : ∀ a ∈ l, Q β (f a)) :
    Q (List β) (l.mapM f) := by
  induction l with
  | nil => exact h.value []
  | cons a l ih =>
    rw [List.mapM_cons]
    refine h.sequence (hf a (List.mem_cons_self ..)) fun b => ?_
    refine h.sequence (ih fun x hx => hf x (List.mem_cons_of_mem a hx)) fun bs => ?_
    exact h.value (b :: bs)

variable (r : Registry)

theorem convertSlot (h : Closed Q) {expand : String → Emit String} (hexpand : ∀ b, Q String (expand b))
    (subject : String) (slot : Slot) : Q String (convertSlot r expand subject slot) := by
  cases r.reading slot with
  | literal hliteral =>
    rw [convertSlot_of_isLiteral r expand subject hliteral]
    exact h.value _
  | builtin target hliteral hbuiltin =>
    rw [convertSlot_of_builtin r expand subject hliteral hbuiltin]
    exact h.sequence (h.named hbuiltin) fun _ => h.value _
  | unknown hliteral hbuiltin hfind =>
    rw [convertSlot_of_find?_eq_none r expand subject hliteral hbuiltin hfind]
    exact h.sequence (h.unresolved _ _) fun _ => h.value _
  | named c hliteral hbuiltin hfind hbacking =>
    rw [convertSlot_of_find? hliteral hbuiltin hfind hbacking]
    exact h.value _
  | enumeration b hbacking =>
    rw [convertSlot_of_backing? r expand subject hbacking]
    exact h.sequence (hexpand b) fun _ => h.value _

theorem convertPlain (h : Closed Q) (fuel : Nat) (type : String) : Q String (convertPlain r fuel type) := by
  induction fuel generalizing type with
  | zero => exact h.value _
  | succ fuel ih =>
    rw [AmbientDecls.convertPlain]
    refine h.sequence (h.mapM _ fun slot _ => ?_) fun _ => h.value _
    exact h.convertSlot r ih type slot

mutual

theorem convert (h : Closed Q) (type : String) : (ps : Option (List Param)) → Q String (convert r type ps)
  | none => by
    rw [AmbientDecls.convert]
    exact h.convertPlain r _ type
  | some ps => by
    rw [AmbientDecls.convert]
    refine h.sequence (h.mapM _ fun slot _ => ?_) fun _ => h.value _
    split
    · refine h.sequence (h.callbackReturn ps _) fun returns => ?_
      exact h.sequence (h.callbackParams type ps [] false) fun params => h.value _
    · exact h.convertSlot r (h.convertPlain r _) type slot
termination_by structural ps => ps

theorem convertWith (h : Closed Q) (type : String) : (p : Param) → Q String (convertWith r type p)
  | ⟨_, _, _, properties, _⟩ => by
    rw [AmbientDecls.convertWith]
    exact h.convert type properties
termination_by structural p => p

theorem callbackReturn (h : Closed Q) :
    (ps : List Param) → ∀ found : String, Q String (callbackReturn r ps found)
  | [], found => by
    rw [AmbientDecls.callbackReturn]
    exact h.value found
  | p :: ps, found => by
    rw [AmbientDecls.callbackReturn]
    split
    · exact h.sequence (h.convertWith p.type p) fun t => h.callbackReturn ps t
    · exact h.callbackReturn ps found
termination_by structural ps => ps

theorem callbackParams (h : Closed Q) (subject : String) :
    (ps : List Param) → ∀ (seen : List String) (optional : Bool),
      Q (List Parameter) (callbackParams r subject ps seen optional)
  | [], seen, optional => by
    rw [AmbientDecls.callbackParams]
    exact h.value []
  | p :: ps, seen, optional => by
    rw [AmbientDecls.callbackParams]
    split
    · exact h.callbackParams subject ps seen optional
    · simp only
      split
      · exact h.sequence (h.repeated _) fun _ => h.callbackParams subject ps seen optional
      · cases restElement? p.type with
        | some element =>
          simp only
          split
          · exact h.value _
          · exact h.sequence (h.convertWith element p) fun t => h.value _
        | none =>
          refine h.sequence (h.convertWith p.type p) fun t => ?_
          exact h.sequence (h.callbackParams subject ps _ _) fun more => h.value _
termination_by structural ps => ps

end

end Emit.Closed
end AmbientDecls
