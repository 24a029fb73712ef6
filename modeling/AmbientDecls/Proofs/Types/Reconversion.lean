import AmbientDecls.Proofs.Types.Dialogue
import AmbientDecls.Proofs.Types.Separated
import AmbientDecls.Proofs.Types.Unfolding

/-! Conversion of converted types. Outside of scopes, a type without descriptors is converted into alternatives that stand for
themselves, unless parentheses are needed. A type that is written so is converted into itself. -/

namespace AmbientDecls

open Emit Relation

namespace Emit

variable {α β : Type}

/-- An emission that yields a value and leaves a state without a scope as it is. -/
def Leaves (act : Emit α) (a : α) : Prop := ∀ t : EmitState, t.scope = none → act.run t = (a, t)

theorem leaves_pure (a : α) : Leaves (pure a) a := fun _ _ => rfl

theorem Leaves.bind {act : Emit α} {f : α → Emit β} {a : α} {b : β} (h : Leaves act a)
    (hf : Leaves (f a) b) : Leaves (act >>= f) b := by
  intro t ht
  rw [run_bind, h t ht]
  exact hf t ht

theorem leaves_mapM {f : α → Emit β} {g : α → β} {l : List α} (h : ∀ a ∈ l, Leaves (f a) (g a)) :
    Leaves (l.mapM f) (l.map g) := by
  induction l with
  | nil => exact leaves_pure []
  | cons a l ih =>
    rw [List.mapM_cons]
    refine (h a (List.mem_cons_self ..)).bind ?_
    exact (ih fun x hx => h x (List.mem_cons_of_mem a hx)).bind (leaves_pure _)

theorem leaves_builtin (target : String) : Leaves (builtin target) target := by
  rintro ⟨scope, diagnostics⟩ hscope
  obtain rfl : scope = none := hscope
  rfl

theorem yields_mapM_forall {shown : String → String} {P : β → Prop} {f : α → Emit β} {l : List α}
    (h : ∀ a ∈ l, Yields shown (f a) P) :
    Yields shown (l.mapM f) fun bs => bs.length = l.length ∧ ∀ b ∈ bs, P b := by
  refine (yields_mapM h).imp fun bs hbs => ⟨hbs.length_eq.symm, ?_⟩
  have hflip : List.Forall₂ (fun b _ => P b ∧ True) bs l := hbs.flip.imp fun _ _ hb => ⟨hb, trivial⟩
  exact ((List.forall₂_and_left (R := fun _ _ => True) bs l).mp hflip).1

end Emit

namespace Slot

/-- A name that is cut nowhere and that keeps its end if markers are put behind it. -/
structure IsWhole (name : String) : Prop where
  unbroken : ∀ c ∈ name.toList, isSeparator c = false ∧ c ≠ ' '
  ends : ∀ c ∈ name.toList.getLast?, c ≠ ']' ∧ c ≠ '\n'

theorem isWhole_of_isDotted {name : String} (h : isDotted name.toList = true) : IsWhole name where
  unbroken c hc := by
    have hword := Token.isWordChar_of_isDotted h c hc
    have hbar : c ≠ '|' := Token.ne_of_isWordChar hword rfl
    have hslash : c ≠ '/' := Token.ne_of_isWordChar hword rfl
    exact ⟨by simp [isSeparator, hbar, hslash], Token.ne_of_isWordChar hword rfl⟩
  ends c hc := by
    have hword := Token.isWordChar_of_isDotted h c (List.mem_of_getLast? hc)
    exact ⟨Token.ne_of_isWordChar hword rfl, Token.ne_of_isWordChar hword rfl⟩

theorem isLiteral_of_isDotted {slot : Slot} (h : isDotted slot.base.toList = true) :
    slot.isLiteral = false := by
  cases hlast : slot.base.toList.getLast? with
  | none =>
    rw [List.getLast?_eq_none_iff] at hlast
    rw [hlast] at h
    cases h
  | some c =>
    have hword := Token.isWordChar_of_isDotted h c (List.mem_of_getLast? hlast)
    have hdouble : c ≠ '"' := Token.ne_of_isWordChar hword rfl
    have hsingle : c ≠ '\'' := Token.ne_of_isWordChar hword rfl
    exact isLiteral_of_getLast? hlast (by simp [Token.isQuote, hdouble, hsingle])

theorem IsWhole.text {slot : Slot} (h : IsWhole slot.base) :
    ∀ c ∈ slot.text.toList, isSeparator c = false ∧ c ≠ ' ' := by
  intro c hc
  rw [Slot.text, String.toList_append] at hc
  rcases List.mem_append.mp hc with hc | hc
  · exact h.unbroken c hc
  · rcases mem_brackets c hc with rfl | rfl <;> exact ⟨rfl, by decide⟩

theorem ofText_text {slot : Slot} (h : IsWhole slot.base) : ofText slot.text.toList = slot := by
  rw [text, String.toList_append, ofText_append_brackets h.ends, String.ofList_toList]

theorem unbroken_of_mem_all {type : String} {slot : Slot} (h : slot ∈ all type) :
    ∀ c ∈ slot.base.toList, isSeparator c = false ∧ c ≠ ' ' := by
  intro c hc
  obtain ⟨piece, hpiece, rfl⟩ := List.mem_map.mp h
  rw [ofText, String.toList_ofList] at hc
  have hmem := List.mem_of_mem_take hc
  have hkept := (List.mem_filter.mp (Text.mem_of_mem_pieces hpiece hmem)).2
  exact ⟨Text.not_of_mem_pieces hpiece c hmem, bne_iff_ne.mp hkept⟩

/-- Alternatives that are written with bars between them are read again. -/
theorem all_intercalate {slots : List Slot} (hne : slots ≠ []) (h : ∀ slot ∈ slots, IsWhole slot.base) :
    all ("|".intercalate (slots.map text)) = slots := by
  let texts := (slots.map text).map String.toList
  have hmem : ∀ s ∈ texts, ∃ slot ∈ slots, slot.text.toList = s := by
    intro s hs
    obtain ⟨_, htext, rfl⟩ := List.mem_map.mp hs
    obtain ⟨slot, hslot, rfl⟩ := List.mem_map.mp htext
    exact ⟨slot, hslot, rfl⟩
  have hlist : ("|".intercalate (slots.map text)).toList = ['|'].intercalate texts :=
    String.toList_intercalate
  have hspaces : (['|'].intercalate texts).filter (· != ' ') = ['|'].intercalate texts := by
    refine List.filter_eq_self.mpr fun c hc => bne_iff_ne.mpr ?_
    rcases Text.mem_intercalate hc with rfl | ⟨s, hs, hc⟩
    · decide
    · obtain ⟨slot, hslot, rfl⟩ := hmem s hs
      exact ((h slot hslot).text c hc).2
  have hpieces : Text.pieces isSeparator (['|'].intercalate texts) = texts := by
    refine Text.pieces_intercalate rfl (by simpa [texts] using hne) fun s hs c hc => ?_
    obtain ⟨slot, hslot, rfl⟩ := hmem s hs
    exact ((h slot hslot).text c hc).1
  rw [all, hlist, hspaces, hpieces, List.map_map, List.map_map]
  refine (List.map_congr_left fun slot hslot => ?_).trans (List.map_id slots)
  exact ofText_text (h slot hslot)

end Slot

namespace Registry

/-- A name that is shown as it is, without a report, in as many arrays as it has markers. -/
structure ShowsItself (r : Registry) (name : String) : Prop where
  whole : Slot.IsWhole name
  shown : ∀ depth expand subject,
    Leaves (convertSlot r expand subject ⟨name, depth⟩) (Slot.text ⟨name, depth⟩)

/-- A type is settled if it is written in alternatives that stand for themselves. -/
def Settled (r : Registry) (text : String) : Prop :=
  ∃ slots : List Slot, slots ≠ [] ∧ (∀ slot ∈ slots, r.ShowsItself slot.base) ∧
    text = "|".intercalate (slots.map Slot.text)

variable {r : Registry} {text : String}

theorem ShowsItself.settled {name : String} (h : r.ShowsItself name) (depth : Nat) :
    r.Settled (Slot.text ⟨name, depth⟩) :=
  ⟨[⟨name, depth⟩], List.cons_ne_nil _ _, fun _ hslot => List.mem_singleton.mp hslot ▸ h,
    String.intercalate_singleton.symm⟩

namespace Settled

theorem eq_intercalate (h : r.Settled text) :
    text = "|".intercalate ((Slot.all text).map Slot.text) := by
  obtain ⟨slots, hne, hslots, rfl⟩ := h
  rw [Slot.all_intercalate hne fun slot hslot => (hslots slot hslot).whole]

theorem showsItself (h : r.Settled text) : ∀ slot ∈ Slot.all text, r.ShowsItself slot.base := by
  obtain ⟨slots, hne, hslots, rfl⟩ := h
  rwa [Slot.all_intercalate hne fun slot hslot => (hslots slot hslot).whole]

/-- A settled type is converted into itself. -/
theorem leaves (h : r.Settled text) : Leaves (convert r text none) text := by
  rw [convert, typeFuel, convertPlain]
  refine Leaves.bind (leaves_mapM fun slot hslot => (h.showsItself slot hslot).shown _ _ _) ?_
  rw [← h.eq_intercalate]
  exact leaves_pure text

theorem join {texts : List String} (hne : texts ≠ []) (h : ∀ text ∈ texts, r.Settled text) :
    r.Settled ("|".intercalate texts) := by
  induction texts with
  | nil => exact absurd rfl hne
  | cons first texts ih =>
    have hfirst := h first (List.mem_cons_self ..)
    cases texts with
    | nil => rwa [String.intercalate_singleton]
    | cons second texts =>
      obtain ⟨slots, hslots, hshown, hrest⟩ :=
        ih (List.cons_ne_nil second texts) fun text htext => h text (List.mem_cons_of_mem first htext)
      obtain ⟨before, hbefore, hbeforeShown, rfl⟩ := hfirst
      refine ⟨before ++ slots, List.append_ne_nil_of_left_ne_nil hbefore slots, ?_, ?_⟩
      · intro slot hslot
        exact (List.mem_append.mp hslot).elim (hbeforeShown slot) (hshown slot)
      · rw [String.intercalate_cons_cons, hrest, List.map_append]
        refine (Text.intercalate_append "|" ?_ ?_).symm
        · exact mt List.map_eq_nil_iff.mp hbefore
        · exact mt List.map_eq_nil_iff.mp hslots

/-- Without a bar there is one alternative, and more markers are read together with its own. -/
theorem brackets (h : r.Settled text) (hbar : '|' ∉ text.toList) (depth : Nat) :
    r.Settled (text ++ Slot.brackets depth) := by
  obtain ⟨slots, hne, hslots, rfl⟩ := h
  cases slots with
  | nil => exact absurd rfl hne
  | cons slot slots =>
    cases slots with
    | nil =>
      have hslot := hslots slot (List.mem_cons_self ..)
      rw [List.map_singleton, String.intercalate_singleton, Slot.text, String.append_assoc,
        Slot.brackets_append]
      exact hslot.settled (slot.depth + depth)
    | cons second slots =>
      refine absurd ?_ hbar
      rw [List.map_cons, List.map_cons, String.intercalate_cons_cons, String.toList_append,
        String.toList_append]
      exact List.mem_append_left _ (List.mem_append_right _ (List.mem_singleton_self '|'))

end Settled

theorem showsItself_of_isLiteral {slot : Slot} (hliteral : slot.isLiteral = true)
    (hslot : ∀ c ∈ slot.base.toList, Slot.isSeparator c = false ∧ c ≠ ' ') : r.ShowsItself slot.base where
  whole := by
    obtain ⟨quote, inner, hquote, hlist⟩ := Slot.exists_quotes hliteral
    refine ⟨hslot, fun c hc => ?_⟩
    rw [hlist, List.getLast?_concat] at hc
    obtain rfl := Option.some.inj hc
    exact ⟨Token.ne_of_isQuote hquote rfl, Token.ne_of_isQuote hquote rfl⟩
  shown depth expand subject := by
    have hsame : Slot.isLiteral ⟨slot.base, depth⟩ = true := hliteral
    rw [convertSlot_of_isLiteral r expand subject hsame]
    exact leaves_pure _

theorem showsItself_of_builtin? {name : String} (hname : isDotted name.toList = true)
    (h : builtin? name = some name) : r.ShowsItself name where
  whole := Slot.isWhole_of_isDotted hname
  shown depth expand subject := by
    have hliteral : Slot.isLiteral ⟨name, depth⟩ = false := Slot.isLiteral_of_isDotted hname
    rw [convertSlot_of_builtin r expand subject hliteral h]
    exact (leaves_builtin name).bind (leaves_pure _)

theorem showsItself_of_find? {c : ClassRef} (hname : isDotted c.name.toList = true)
    (hbuiltin : builtin? c.name = none) (hfind : r.find? c.name = some c) (hbacking : c.backing = none) :
    r.ShowsItself c.name where
  whole := Slot.isWhole_of_isDotted hname
  shown depth expand subject := by
    have hliteral : Slot.isLiteral ⟨c.name, depth⟩ = false := Slot.isLiteral_of_isDotted hname
    rw [convertSlot_of_find? hliteral hbuiltin hfind hbacking]
    exact leaves_pure _

theorem settled_unknownType : r.Settled unknownType := by
  have hself : r.ShowsItself unknownType := showsItself_of_builtin? (by decide) rfl
  exact hself.settled 0

/-- The declared name of a built-in type, which may be one of arrays, is a built-in type of its own name. -/
theorem builtinTypes_declared : ∀ e ∈ builtinTypes,
    isDotted (Slot.ofPiece e.2.toList).base.toList = true ∧
      builtin? (Slot.ofPiece e.2.toList).base = some (Slot.ofPiece e.2.toList).base := by
  decide +kernel

end Registry

/-- Names of classes are identifiers with dots that no built-in type has, each of them stands for its own class, and no
enumeration stands behind itself. -/
structure SelfNamed (records : List ClassRecord) : Prop where
  names : ∀ c ∈ records, isDotted c.name.toList = true
  unlisted : ∀ c ∈ records, builtin? c.name = none
  own : ∀ c ∈ (Registry.ofRecords records).classes, (Registry.ofRecords records).find? c.name = some c
  acyclic : ∀ b, ¬ TransGen (Registry.ofRecords records).Behind b b

variable {records : List ClassRecord}

/-- What an enumeration stands for is put in parentheses if it has more than one alternative and markers follow. -/
theorem Registry.Settled.enumeration {r : Registry} {t : String} {depth : Nat}
    (ht : '(' ∉ t.toList → r.Settled t)
    (h : '(' ∉ ((if depth != 0 && needsParens t then "(" ++ t ++ ")" else t) ++ Slot.brackets depth).toList) :
    r.Settled ((if depth != 0 && needsParens t then "(" ++ t ++ ")" else t) ++ Slot.brackets depth) := by
  split at h
  · refine absurd ?_ h
    rw [String.toList_append, String.toList_append, String.toList_append]
    exact List.mem_append_left _ (List.mem_append_left _ (List.mem_append_left _ (List.mem_singleton_self '(')))
  · rename_i hplain
    rw [if_neg hplain]
    rw [String.toList_append, List.mem_append, not_or] at h
    cases depth with
    | zero =>
      rw [Slot.brackets, String.append_empty]
      exact ht h.1
    | succ depth =>
      refine (ht h.1).brackets (fun hbar => hplain ?_) (depth + 1)
      simp [needsParens, hbar]

theorem SelfNamed.yields_slot (h : SelfNamed records) {expand : String → Emit String}
    (hexpand : ∀ b, Yields (shownIn none) (expand b)
      fun text => '(' ∉ text.toList → (Registry.ofRecords records).Settled text)
    {slot : Slot} (hslot : ∀ c ∈ slot.base.toList, Slot.isSeparator c = false ∧ c ≠ ' ') (subject : String) :
    Yields (shownIn none) (convertSlot (Registry.ofRecords records) expand subject slot)
      fun text => '(' ∉ text.toList → (Registry.ofRecords records).Settled text := by
  cases (Registry.ofRecords records).reading slot with
  | literal hliteral =>
    rw [convertSlot_of_isLiteral _ expand subject hliteral]
    exact yields_pure fun _ => (Registry.showsItself_of_isLiteral hliteral hslot).settled slot.depth
  | builtin target hliteral hbuiltin =>
    rw [convertSlot_of_builtin _ expand subject hliteral hbuiltin]
    have hentry := mem_builtinTypes hbuiltin
    obtain ⟨hdotted, hself⟩ := Registry.builtinTypes_declared _ hentry
    refine (yields_builtin (builtinTypes_ends _ hentry).2.2).bind fun text htext =>
      yields_pure fun _ => ?_
    -- the markers of the declared name and those of the alternative are read together
    rw [htext, String.append_assoc, Slot.brackets_append]
    exact (Registry.showsItself_of_builtin? hdotted hself).settled
      ((Slot.ofPiece target.toList).depth + slot.depth)
  | unknown hliteral hbuiltin hfind =>
    rw [convertSlot_of_find?_eq_none _ expand subject hliteral hbuiltin hfind]
    exact (yields_warn _ _ _).bind fun _ _ => yields_pure fun _ => Registry.settled_unknownType
  | named c hliteral hbuiltin hfind hbacking =>
    rw [convertSlot_of_find? hliteral hbuiltin hfind hbacking]
    obtain ⟨hmem, _⟩ := mem_records_of_find? hfind
    have hself := Registry.showsItself_of_find? (h.names _ hmem) (h.unlisted _ hmem)
      (h.own c (Registry.mem_classes_of_find? hfind)) hbacking
    exact yields_pure fun _ => hself.settled slot.depth
  | enumeration b hbacking =>
    rw [convertSlot_of_backing? _ expand subject hbacking]
    exact (hexpand b).bind fun t ht => yields_pure (Registry.Settled.enumeration ht)

/-- Without a scope, a type is converted into a settled one, unless it has parentheses in it. -/
theorem SelfNamed.yields_convertPlain (h : SelfNamed records) (fuel : Nat) (type : String) :
    Yields (shownIn none) (convertPlain (Registry.ofRecords records) fuel type)
      fun text => '(' ∉ text.toList → (Registry.ofRecords records).Settled text := by
  induction fuel generalizing type with
  | zero => exact yields_pure fun _ => Registry.settled_unknownType
  | succ fuel ih =>
    rw [convertPlain]
    refine Yields.bind (yields_mapM_forall fun slot hslot =>
      h.yields_slot ih (Slot.unbroken_of_mem_all hslot) type) fun texts htexts => yields_pure fun hplain => ?_
    obtain ⟨hlength, hsettled⟩ := htexts
    refine Registry.Settled.join ?_ fun text htext => hsettled text htext fun hmem => hplain ?_
    · rintro rfl
      exact Slot.all_ne_nil type (List.eq_nil_of_length_eq_zero hlength.symm)
    · rw [String.toList_intercalate]
      exact Text.mem_intercalate_of_mem (List.mem_map_of_mem htext) hmem

theorem convert_scope_none (r : Registry) (type : String) {s : EmitState} (hs : s.scope = none) :
    ((convert r type none).run s).2.scope = none := by
  obtain ⟨q, hq⟩ := (isDialogue_convert r type none).steady (shownIn none)
  rw [hq s (congrArg shownIn hs), EmitState.after, hs]
  rfl

/-- What a type without descriptors is converted into outside of scopes is converted into itself, without another
report, unless there are parentheses in it. Each of its alternatives is, with its markers; and no conversion
runs out of fuel. -/
theorem SelfNamed.reconverted (h : SelfNamed records) (type : String) {s : EmitState} (hs : s.scope = none) :
    let r := Registry.ofRecords records
    let first := (convert r type none).run s
    '(' ∉ first.1.toList →
      (convert r first.1 none).run first.2 = first ∧
      (∀ t : EmitState, t.scope = none → (convert r first.1 none).run t = (first.1, t)) ∧
      first.1 = "|".intercalate ((Slot.all first.1).map Slot.text) ∧
      (∀ slot ∈ Slot.all first.1, Slot.all slot.text = [slot] ∧
        ∀ t : EmitState, t.scope = none → (convert r slot.text none).run t = (slot.text, t)) ∧
      ∀ type more, convertPlain r (r.typeFuel + more) type = convert r type none := by
  intro r first hplain
  have hyields := h.yields_convertPlain r.typeFuel type s (congrArg shownIn hs)
  have hsettled : r.Settled first.1 := hyields.2 hplain
  refine ⟨hsettled.leaves _ (convert_scope_none r type hs), hsettled.leaves, hsettled.eq_intercalate,
    fun slot hslot => ?_, convertPlain_typeFuel h.acyclic⟩
  have hshown := hsettled.showsItself slot hslot
  refine ⟨?_, (hshown.settled slot.depth).leaves⟩
  have hall := Slot.all_intercalate (List.cons_ne_nil slot []) fun _ hmem =>
    List.mem_singleton.mp hmem ▸ hshown.whole
  rwa [List.map_singleton, String.intercalate_singleton] at hall

/-! Enumerations, and a class with another name. -/

def examplePanel : ClassRecord := { name := "Ext.Panel", aliases := ["Ext.AbstractPanel"] }

theorem selfNamed_examplePanel : SelfNamed [exampleSwitch, exampleSetting, examplePanel] where
  names := by decide +kernel
  unlisted := by decide +kernel
  own := List.forall_mem_cons.mpr ⟨rfl, List.forall_mem_cons.mpr ⟨rfl, List.forall_mem_singleton.mpr rfl⟩⟩
  acyclic := acyclic_of_rank String.length (by decide +kernel)

theorem SelfNamed.reconverted_examplePanel :
    let r := Registry.ofRecords [exampleSwitch, exampleSetting, examplePanel]
    let text := "Ext.Panel[][]|any[][]|'on'|'off'|number|'ab'[]|any|void"
    let first := (convert r "Ext.AbstractPanel[][] / Array[] | Ext.Setting | 'a b'[] / Ext.Missing[] | null" none).run {}
    first.1 = text ∧ first.2.diagnostics.length = 1 ∧ (convert r text none).run first.2 = (text, first.2) ∧
      (convert r "Ext.Panel[][]" none).run {} = ("Ext.Panel[][]", {}) := by
  intro r text first
  have htext : first.1 = text := by decide +kernel
  have hplain : '(' ∉ first.1.toList := by
    rw [htext]
    decide +kernel
  have hpanel : ⟨"Ext.Panel", 2⟩ ∈ Slot.all first.1 := by
    rw [htext]
    decide +kernel
  obtain ⟨hsecond, _, _, halternatives, _⟩ := reconverted selfNamed_examplePanel _ (s := {}) rfl hplain
  refine ⟨htext, by decide +kernel, ?_, (halternatives _ hpanel).2 {} rfl⟩
  rw [← htext]
  exact hsecond.trans (Prod.eta first).symm

end AmbientDecls
