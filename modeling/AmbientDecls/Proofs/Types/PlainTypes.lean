import AmbientDecls.Proofs.Types.Meaning
import AmbientDecls.Proofs.Types.Shown
import AmbientDecls.Proofs.Types.Written

/-! Types without descriptors are read back as what they mean. Every alternative is converted into a text that may stand
between bars, and by the descent along the enumerations their fuel is never used up. -/

namespace AmbientDecls

open Emit Relation

/-- Names in a registry and in a scope are identifiers with dots, quoted alternatives are clean, and no enumeration
stands behind itself. -/
structure Conventional (records : List ClassRecord) (shown : String → String) : Prop where
  names : ∀ c ∈ records, isDotted c.name.toList = true
  aliases : ∀ c ∈ records, ∀ a ∈ c.aliases, isDotted a.toList = true
  backings : ∀ c ∈ records, ∀ b, c.backing = some b → (Slot.documented b).all Slot.isClean = true
  acyclic : ∀ b, ¬ TransGen (Registry.ofRecords records).BackedBy b b
  builtins : ∀ e ∈ builtinTypes, isDotted (shown (Slot.ofPiece e.2.toList).base).toList = true

variable {records : List ClassRecord} {shown : String → String}

theorem mem_records_of_find? {name : String} {c : ClassRef}
    (h : (Registry.ofRecords records).find? name = some c) :
    c.toClassRecord ∈ records ∧ c.claims name = true := by
  rw [Registry.find?_ofRecords] at h
  refine ⟨?_, List.find?_some (p := fun c : ClassRef => c.claims name) h⟩
  have hplaced := List.mem_reverse.mp (List.mem_of_find?_eq_some h)
  obtain ⟨⟨x, i⟩, hx, rfl⟩ := List.mem_map.mp hplaced
  exact List.fst_mem_of_mem_zipIdx hx

/-- Documented built-in types do not end with a line feed or a half marker, nor do their declared names. -/
theorem builtinTypes_ends : ∀ e ∈ builtinTypes, e.1.toList.getLast? ≠ some '\n' ∧
    e.1.toList.getLast? ≠ some '[' ∧ e.2.toList.getLast? ≠ some '\n' := by
  decide +kernel

theorem mem_builtinTypes {name target : String} (h : builtin? name = some target) :
    (name, target) ∈ builtinTypes := by
  obtain ⟨before, after, hsplit, _⟩ := List.lookup_eq_some_iff.mp h
  rw [hsplit]
  exact List.mem_append_right before (List.mem_cons_self ..)

namespace Conventional

theorem isDotted_claim (h : Conventional records shown) {name : String} {c : ClassRef}
    (hfind : (Registry.ofRecords records).find? name = some c) : isDotted name.toList = true := by
  obtain ⟨hmem, hclaims⟩ := mem_records_of_find? hfind
  rcases Bool.or_eq_true_iff.mp hclaims with hname | halias
  · rw [← of_decide_eq_true hname]
    exact h.names _ hmem
  · exact h.aliases _ hmem name (List.contains_iff_mem.mp halias)

theorem nameless (h : Conventional records shown) {slot : Slot} {c : Char}
    (hlast : slot.base.toList.getLast? = some c) (hc : c = '\n' ∨ c = '[') :
    slot.isLiteral = false ∧ builtin? slot.base = none ∧
      (Registry.ofRecords records).find? slot.base = none := by
  refine ⟨?_, ?_, ?_⟩
  · refine Slot.isLiteral_of_getLast? hlast ?_
    rcases hc with rfl | rfl <;> rfl
  · cases hbuiltin : builtin? slot.base with
    | none => rfl
    | some target =>
      obtain ⟨hline, hmarker, _⟩ := builtinTypes_ends _ (mem_builtinTypes hbuiltin)
      rcases hc with rfl | rfl
      · exact absurd hlast hline
      · exact absurd hlast hmarker
  · cases hfind : (Registry.ofRecords records).find? slot.base with
    | none => rfl
    | some d =>
      have hword := Token.isWordChar_of_isDotted (h.isDotted_claim hfind) c
        (List.mem_of_getLast? hlast)
      rcases hc with rfl | rfl <;> exact absurd hword (by decide)

theorem builtinTree_isOperand (h : Conventional records shown) {name target : String}
    (hbuiltin : builtin? name = some target) :
    IsOperand (shown (Slot.ofPiece target.toList).base ++
      Slot.brackets (Slot.ofPiece target.toList).depth) (builtinTree shown target) :=
  (isOperand_name (h.builtins _ (mem_builtinTypes hbuiltin))).brackets _

end Conventional

variable {expand : String → Emit String} {tree : String → TypeTree}

theorem yields_slot (h : Conventional records shown) {slot : Slot} (hclean : slot.isClean = true)
    (hexpand : ∀ b, (Registry.ofRecords records).backing? slot = some b →
      Yields shown (expand b) (IsUnion · (tree b))) (subject : String) :
    Yields shown (convertSlot (Registry.ofRecords records) expand subject slot)
      (IsUnion · ((Registry.ofRecords records).slotTree shown tree slot)) := by
  unfold Registry.slotTree
  cases (Registry.ofRecords records).reading slot with
  | literal hliteral =>
    rw [convertSlot_of_isLiteral _ expand subject hliteral, if_pos hliteral]
    obtain ⟨quote, inner, hquote, hlist⟩ := Slot.exists_quotes hliteral
    have hinner := Slot.inner_of_isClean hclean hliteral hlist
    exact yields_pure ((isOperand_literal hquote hinner hlist).brackets slot.depth).isUnion
  | builtin target hliteral hbuiltin =>
    rw [convertSlot_of_builtin _ expand subject hliteral hbuiltin]
    simp only [hliteral, hbuiltin, Bool.false_eq_true, if_false]
    have hend := (builtinTypes_ends _ (mem_builtinTypes hbuiltin)).2.2
    refine (yields_builtin hend).bind fun text htext => yields_pure ?_
    rw [htext]
    exact ((h.builtinTree_isOperand hbuiltin).brackets slot.depth).isUnion
  | unknown hliteral hbuiltin hfind =>
    rw [convertSlot_of_find?_eq_none _ expand subject hliteral hbuiltin hfind]
    simp only [hliteral, hbuiltin, hfind, Bool.false_eq_true, if_false]
    refine (yields_warn _ _ _).bind fun _ _ => yields_pure ?_
    exact (isOperand_name (by decide)).isUnion
  | named c hliteral hbuiltin hfind hbacking =>
    rw [convertSlot_of_find? hliteral hbuiltin hfind hbacking]
    simp only [hliteral, hbuiltin, hfind, hbacking, Bool.false_eq_true, if_false]
    obtain ⟨hmem, _⟩ := mem_records_of_find? hfind
    exact yields_pure ((isOperand_name (h.names _ hmem)).brackets slot.depth).isUnion
  | enumeration b hb =>
    rw [convertSlot_of_backing? _ expand subject hb]
    obtain ⟨hliteral, hbuiltin, c, hfind, hbacking⟩ := Registry.backing?_eq_some hb
    simp only [hliteral, hbuiltin, hfind, hbacking, Bool.false_eq_true, if_false]
    exact (hexpand b hb).bind fun text htext => yields_pure (htext.brackets slot.depth)

theorem yields_piece (h : Conventional records shown) {s : List Char}
    (hclean : (Slot.ofPiece s).isClean = true)
    (hexpand : ∀ b, (Registry.ofRecords records).backing? (Slot.ofPiece s) = some b →
      Yields shown (expand b) (IsUnion · (tree b))) (subject : String) :
    Yields shown (convertSlot (Registry.ofRecords records) expand subject (Slot.ofText s))
      (IsUnion · ((Registry.ofRecords records).slotTree shown tree (Slot.ofPiece s))) := by
  by_cases hline : s.getLast? = some '\n'
  · -- the markers are cut off in the wrong place, but nothing has either name
    obtain ⟨hpiece, htext⟩ := Slot.getLast?_of_lineFeed hline
    have hunknown : (Registry.ofRecords records).slotTree shown tree (Slot.ofPiece s) =
        unknownTree := by
      obtain ⟨hliteral, hbuiltin, hfind⟩ := h.nameless hpiece (Or.inl rfl)
      simp [Registry.slotTree, hliteral, hbuiltin, hfind]
    obtain ⟨c, hlast, hc⟩ : ∃ c, (Slot.ofText s).base.toList.getLast? = some c ∧
        (c = '\n' ∨ c = '[') := by
      rcases htext with hlast | hlast
      · exact ⟨_, hlast, Or.inl rfl⟩
      · exact ⟨_, hlast, Or.inr rfl⟩
    obtain ⟨hliteral, hbuiltin, hfind⟩ := h.nameless hlast hc
    rw [hunknown, convertSlot_of_find?_eq_none _ expand subject hliteral hbuiltin hfind]
    refine (yields_warn _ _ _).bind fun _ _ => yields_pure ?_
    exact (isOperand_name (by decide)).isUnion
  · rw [Slot.ofText_eq hline]
    exact yields_slot h hclean hexpand subject

theorem isUnion_pieces {pieces : List (List Char)} {texts : List String}
    {trees : List Char → TypeTree} (hne : pieces ≠ [])
    (h : List.Forall₂ (fun s text => IsUnion text (trees s)) pieces texts) :
    IsUnion ("|".intercalate texts) (.union (pieces.map trees)) := by
  refine isUnion_join (List.forall₂_map_right_iff.mpr h.flip) fun hnil => hne ?_
  rw [hnil] at h
  exact List.forall₂_nil_right_iff.mp h

theorem isClean_of_mem {type : String} (hclean : (Slot.documented type).all Slot.isClean = true)
    {s : List Char} (hs : s ∈ Slot.piecesOf type) : (Slot.ofPiece s).isClean = true :=
  List.all_eq_true.mp hclean _ (List.mem_map_of_mem hs)

/-- A type without descriptors, as long as the fuel lasts for the enumerations in it. -/
theorem yields_convertPlain_succ (h : Conventional records shown) {type : String}
    (hwf : WellFounded (Registry.ofRecords records).BackedBy)
    (hclean : (Slot.documented type).all Slot.isClean = true) {fuel : Nat}
    (hexpand : ∀ b, (Registry.ofRecords records).BackedBy b type →
      Yields shown (convertPlain (Registry.ofRecords records) fuel b)
        (IsUnion · (Registry.plainTree hwf shown b))) :
    Yields shown (convertPlain (Registry.ofRecords records) (fuel + 1) type)
      (IsUnion · (Registry.plainTree hwf shown type)) := by
  rw [Registry.plainTree_eq, Slot.documented, List.map_map, convertPlain]
  have hslots : Slot.all type = (Slot.piecesOf type).map Slot.ofText := rfl
  rw [hslots, List.mapM_map]
  refine Yields.bind (yields_mapM fun s hs => ?_) fun texts htexts =>
    yields_pure (isUnion_pieces (Slot.piecesOf_ne_nil type) htexts)
  simp only [Function.comp_apply]
  exact yields_piece h (isClean_of_mem hclean hs)
    (fun b hb => hexpand b ⟨_, List.mem_map_of_mem hs, hb⟩) type

theorem exists_class_of_backing? {slot : Slot} {b : String}
    (h : (Registry.ofRecords records).backing? slot = some b) :
    ∃ c ∈ (Registry.ofRecords records).classes, c.toClassRecord ∈ records ∧ c.backing = some b := by
  obtain ⟨_, _, c, hfind, hbacking⟩ := Registry.backing?_eq_some h
  exact ⟨c, Registry.mem_classes_of_find? hfind, (mem_records_of_find? hfind).1, hbacking⟩

theorem exists_class_of_backedBy {b type : String}
    (h : (Registry.ofRecords records).BackedBy b type) :
    ∃ c ∈ (Registry.ofRecords records).classes, c.toClassRecord ∈ records ∧ c.backing = some b := by
  obtain ⟨_, _, hb⟩ := h
  exact exists_class_of_backing? hb

def Registry.backings (r : Registry) : List String := r.classes.filterMap fun c => c.backing

theorem mem_backings_of_backing? {slot : Slot} {b : String}
    (h : (Registry.ofRecords records).backing? slot = some b) : b ∈ (Registry.ofRecords records).backings := by
  obtain ⟨c, hc, _, hb⟩ := exists_class_of_backing? h
  exact List.mem_filterMap.mpr ⟨c, hc, hb⟩

theorem mem_backings {b type : String} (h : (Registry.ofRecords records).BackedBy b type) :
    b ∈ (Registry.ofRecords records).backings := by
  obtain ⟨_, _, hb⟩ := h
  exact mem_backings_of_backing? hb

theorem Conventional.wellFounded (h : Conventional records shown) :
    WellFounded (Registry.ofRecords records).BackedBy :=
  wellFounded_of_acyclic mem_backings h.acyclic

/-- One unit of fuel for every class is enough for the types behind enumerations. -/
theorem yields_backing (h : Conventional records shown)
    {b type : String} (hb : (Registry.ofRecords records).BackedBy b type) :
    Yields shown (convertPlain (Registry.ofRecords records) (Registry.ofRecords records).size b)
      (IsUnion · (Registry.plainTree h.wellFounded shown b)) := by
  have hclean : ∀ {b type}, (Registry.ofRecords records).BackedBy b type →
      (Slot.documented b).all Slot.isClean = true := by
    intro b type hb
    obtain ⟨c, _, hc, hbacking⟩ := exists_class_of_backedBy hb
    exact h.backings _ hc b hbacking
  let P : Nat → String → Prop := fun fuel type => (Slot.documented type).all Slot.isClean = true →
    Yields shown (convertPlain (Registry.ofRecords records) fuel type)
      (IsUnion · (Registry.plainTree h.wellFounded shown type))
  have hstep : ∀ fuel type, (∀ b, (Registry.ofRecords records).BackedBy b type → P fuel b) →
      P (fuel + 1) type := by
    intro fuel type ih htype
    exact yields_convertPlain_succ h h.wellFounded htype fun b hb => ih b hb (hclean hb)
  have hbound : (Registry.ofRecords records).backings.length ≤ (Registry.ofRecords records).size :=
    List.length_filterMap_le _ _
  exact descent (P := P) mem_backings hbound h.acyclic hstep hb (hclean hb)

theorem yields_convertPlain (h : Conventional records shown) {type : String}
    (hclean : (Slot.documented type).all Slot.isClean = true) :
    Yields shown
      (convertPlain (Registry.ofRecords records) (Registry.ofRecords records).typeFuel type)
      (IsUnion · (Registry.plainTree h.wellFounded shown type)) :=
  yields_convertPlain_succ h h.wellFounded hclean fun _ hb => yields_backing h hb

end AmbientDecls
