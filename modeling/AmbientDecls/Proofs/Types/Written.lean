import AmbientDecls.Proofs.Types.Reader
import AmbientDecls.Types.Conversion

/-! Texts that are read as a type up to the nesting of unions, and what becomes of them when array markers,
parentheses, bars and arrows are put around them. A text without bar and arrow is an operand. -/

namespace AmbientDecls

open Token (Scans Breaks)
open TypeTree (Same)

/-- A text that is read as an operand, wherever it stands. -/
def IsOperand (text : String) (t : TypeTree) : Prop :=
  ∃ ts u, Scans text.toList ts ∧ Reader.IsOperand ts u ∧ Same u t

/-- A text that is read as alternatives; without a bar in it, it is an operand. -/
def IsUnion (text : String) (t : TypeTree) : Prop :=
  ∃ ts us, Scans text.toList ts ∧ Reader.IsUnion ts us ∧ Same (.union us) t ∧
    ('|' ∉ text.toList → IsOperand text t)

/-- A text that is read as a type; it is an operand unless parentheses are needed before an array marker. -/
def IsType (text : String) (t : TypeTree) : Prop :=
  ∃ ts u, Scans text.toList ts ∧ Reader.IsType ts u ∧ Same u t ∧
    (needsParens text = false → IsOperand text t)

variable {text : String} {t u : TypeTree}

theorem IsOperand.same (h : IsOperand text t) (k : Same t u) : IsOperand text u := by
  obtain ⟨ts, v, hscans, hts, hv⟩ := h
  exact ⟨ts, v, hscans, hts, hv.trans k⟩

theorem IsUnion.same (h : IsUnion text t) (k : Same t u) : IsUnion text u := by
  obtain ⟨ts, us, hscans, hts, hus, hbar⟩ := h
  exact ⟨ts, us, hscans, hts, hus.trans k, fun hnot => (hbar hnot).same k⟩

theorem IsType.same (h : IsType text t) (k : Same t u) : IsType text u := by
  obtain ⟨ts, v, hscans, hts, hv, hparens⟩ := h
  exact ⟨ts, v, hscans, hts, hv.trans k, fun hnot => (hparens hnot).same k⟩

theorem IsOperand.isUnion (h : IsOperand text t) : IsUnion text t := by
  obtain ⟨ts, u, hscans, hts, hu⟩ := h
  exact ⟨ts, [u], hscans, hts.isUnion, (TypeTree.same_singleton u).trans hu,
    fun _ => ⟨ts, u, hscans, hts, hu⟩⟩

theorem IsUnion.isType (h : IsUnion text t) : IsType text t := by
  obtain ⟨ts, us, hscans, hts, hus, hbar⟩ := h
  refine ⟨ts, .ofAlternatives us, hscans, hts.isType,
    (TypeTree.same_ofAlternatives us).trans hus, fun hparens => hbar fun hmem => ?_⟩
  have hneeds : needsParens text = true :=
    Bool.or_eq_true_iff.mpr (Or.inl (List.contains_iff_mem.mpr hmem))
  exact absurd (hneeds.symm.trans hparens) (by decide)

theorem IsOperand.isType (h : IsOperand text t) : IsType text t := h.isUnion.isType

theorem IsType.read_flat (h : IsType text t) : (Reader.read text).map TypeTree.flat = some t.flat := by
  obtain ⟨ts, u, hscans, hts, hu, _⟩ := h
  rw [Reader.read_eq hscans hts, Option.map_some, hu.flat_eq]

theorem isOperand_name (h : isDotted text.toList = true) : IsOperand text (.name text) := by
  refine ⟨_, _, Scans.dotted h, Reader.isOperand_name h, ?_⟩
  rw [String.ofList_toList]

theorem isOperand_literal {quote : Char} {inner : List Char} (hquote : Token.isQuote quote = true)
    (hinner : ∀ c ∈ inner, c ≠ quote ∧ c ≠ '\\' ∧ isLineBreak c = false)
    (htext : text.toList = quote :: inner ++ [quote]) : IsOperand text (.literal text) := by
  refine ⟨_, _, ?_, Reader.isOperand_literal text.toList, ?_⟩
  · rw [htext]
    exact Scans.literal hquote hinner
  · rw [String.ofList_toList]

theorem IsOperand.array (h : IsOperand text t) : IsOperand (text ++ "[]") (.array t) := by
  obtain ⟨ts, u, hscans, hts, hu⟩ := h
  refine ⟨_, _, ?_, hts.array, hu.array⟩
  rw [String.toList_append]
  exact hscans.append ((Scans.nil.sign (by decide)).sign (by decide))
    (Token.breaks_cons (by decide) _)

theorem IsOperand.brackets (h : IsOperand text t) (n : Nat) :
    IsOperand (text ++ Slot.brackets n) (.arrays n t) := by
  induction n generalizing text t with
  | zero =>
    rw [Slot.brackets, String.append_empty]
    exact h
  | succ n ih =>
    rw [Slot.brackets, ← String.append_assoc, TypeTree.arrays, ← TypeTree.arrays_array]
    exact ih h.array

theorem IsType.parens (h : IsType text t) : IsOperand ("(" ++ text ++ ")") t := by
  obtain ⟨ts, u, hscans, hts, hu, _⟩ := h
  refine ⟨_, _, ?_, hts.group, hu⟩
  rw [String.toList_append, String.toList_append, List.append_assoc]
  exact (hscans.append (Scans.nil.sign (by decide)) (Token.breaks_cons (by decide) _)).sign
    (by decide)

theorem IsType.arrayOf (h : IsType text t) : IsOperand (arrayOf text) (.array t) := by
  unfold AmbientDecls.arrayOf
  split
  · have hparens := h.parens.array
    rw [String.append_assoc] at hparens
    exact hparens
  · rename_i hneeds
    obtain ⟨_, _, _, _, _, hoperand⟩ := h
    exact (hoperand (Bool.eq_false_iff.mpr hneeds)).array

theorem IsUnion.brackets (h : IsUnion text t) (n : Nat) :
    IsUnion ((if n != 0 && needsParens text then "(" ++ text ++ ")" else text) ++
      Slot.brackets n) (.arrays n t) := by
  cases n with
  | zero =>
    rw [Slot.brackets, String.append_empty]
    exact h
  | succ n =>
    cases hneeds : needsParens text with
    | true => exact (h.isType.parens.brackets (n + 1)).isUnion
    | false =>
      obtain ⟨_, _, _, _, _, hoperand⟩ := h.isType
      exact ((hoperand hneeds).brackets (n + 1)).isUnion

theorem IsUnion.append {rest : String} {v : TypeTree} (h : IsUnion text t) (k : IsUnion rest v) :
    IsUnion (text ++ "|" ++ rest) (.union [t, v]) := by
  obtain ⟨ts, us, hscans, hts, hus, _⟩ := h
  obtain ⟨ts', us', hscans', hts', hus', _⟩ := k
  have hlist : (text ++ "|" ++ rest).toList = text.toList ++ '|' :: rest.toList := by
    simp [String.toList_append]
  refine ⟨_, _, ?_, hts.append hts', ?_, ?_⟩
  · rw [hlist]
    exact hscans.append (hscans'.sign (by decide)) (Token.breaks_cons (by decide) _)
  · exact (TypeTree.same_union_append us us').trans (Same.union (.cons hus (.cons hus' .nil)))
  · intro hbar
    rw [hlist] at hbar
    exact absurd (List.mem_append_right _ (List.mem_cons_self ..)) hbar

theorem isUnion_join {texts : List String} {ts : List TypeTree}
    (h : List.Forall₂ IsUnion texts ts) (hne : texts ≠ []) :
    IsUnion ("|".intercalate texts) (.union ts) := by
  induction h with
  | nil => exact absurd rfl hne
  | @cons text t texts ts ht hts ih =>
    cases hts with
    | nil =>
      rw [String.intercalate_singleton]
      exact ht.same (TypeTree.same_singleton t).symm
    | @cons _ u _ us hu hus =>
      rw [String.intercalate_cons_cons]
      refine (ht.append (ih (List.cons_ne_nil _ _))).same ?_
      exact TypeTree.same_union_cons t (u :: us)

/-- The label of a parameter; a rest parameter is not marked as optional. -/
def Parameter.label (p : Parameter) : Label :=
  ⟨p.name, if p.rest then .rest else if p.optional then .optional else .required⟩

theorem scans_name {s : List Char} (h : isName s = true) : Scans s [.word s] :=
  Scans.dotted (isDotted_of_isName h)

theorem scans_rest {s : List Char} (h : isName s = true) :
    Scans ('.' :: '.' :: '.' :: s) [.word ('.' :: '.' :: '.' :: s)] := by
  refine Scans.word fun c hc => ?_
  simp only [List.mem_cons] at hc
  rcases hc with rfl | rfl | rfl | hc
  · rfl
  · rfl
  · rfl
  · exact Bool.or_eq_true_iff.mpr (Or.inl (isNameChar_of_isName h c hc))

theorem scans_param {p : Parameter} (h : isName p.name.toList = true) {ts : List Token}
    (hts : Scans p.type.toList ts) :
    Scans p.render.toList (Reader.labelTokens p.label ++ .sign ':' :: ts) := by
  obtain ⟨name, type, optional, rest⟩ := p
  have hcolon : Scans (':' :: ' ' :: type.toList) (.sign ':' :: ts) :=
    hts.space.sign (by decide)
  have hbreaks : ∀ c s, c = ':' ∨ c = '?' → Breaks (c :: s) := by
    rintro c s (rfl | rfl) <;> exact Token.breaks_cons (by decide) s
  cases rest with
  | true =>
    have hlist : (Parameter.render ⟨name, type, optional, true⟩).toList =
        ('.' :: '.' :: '.' :: name.toList) ++ ':' :: ' ' :: type.toList := by
      simp [Parameter.render, String.toList_append]
    rw [hlist]
    exact (scans_rest h).append hcolon (hbreaks _ _ (Or.inl rfl))
  | false =>
    cases optional with
    | true =>
      have hlist : (Parameter.render ⟨name, type, true, false⟩).toList =
          name.toList ++ '?' :: ':' :: ' ' :: type.toList := by
        simp [Parameter.render, String.toList_append]
      rw [hlist]
      exact (scans_name h).append (hcolon.sign (by decide)) (hbreaks _ _ (Or.inr rfl))
    | false =>
      have hlist : (Parameter.render ⟨name, type, false, false⟩).toList =
          name.toList ++ ':' :: ' ' :: type.toList := by
        simp [Parameter.render, String.toList_append]
      rw [hlist]
      exact (scans_name h).append hcolon (hbreaks _ _ (Or.inl rfl))

theorem scans_intercalate {texts : List String} {tss : List (List Token)}
    (h : List.Forall₂ (fun text ts => Scans text.toList ts) texts tss) :
    Scans (", ".intercalate texts).toList ([Token.sign ','].intercalate tss) := by
  induction h with
  | nil =>
    rw [String.intercalate_nil, List.intercalate_nil]
    exact Scans.nil
  | @cons text ts texts tss ht hts ih =>
    cases hts with
    | nil =>
      rw [String.intercalate_singleton, List.intercalate_singleton]
      exact ht
    | @cons _ us _ uss hu hus =>
      rw [String.intercalate_cons_cons, List.intercalate_cons_cons, String.toList_append,
        String.toList_append, List.append_assoc, List.append_assoc]
      exact ht.append (ih.space.sign (by decide)) (Token.breaks_cons (by decide) _)

theorem needsParens_functionText (ps : List Parameter) (returns : String) :
    needsParens (functionText ps returns) = true := by
  have hpair : ∀ s rest : List Char,
      ('=', '>') ∈ (s ++ '=' :: '>' :: rest).zip (s ++ '=' :: '>' :: rest).tail := by
    intro s rest
    induction s with
    | nil => exact List.mem_cons_self ..
    | cons c s ih =>
      cases s with
      | nil => exact List.mem_cons_of_mem _ (List.mem_cons_self ..)
      | cons d s => exact List.mem_cons_of_mem _ ih
  have hlist : (functionText ps returns).toList =
      ('(' :: (Parameter.renderAll ps).toList ++ [')', ' ']) ++ '=' :: '>' :: ' ' :: returns.toList := by
    simp [functionText, String.toList_append]
  unfold needsParens
  rw [hlist]
  exact Bool.or_eq_true_iff.mpr (Or.inr (List.contains_iff_mem.mpr (hpair _ _)))

theorem isType_function {ps : List Parameter} {qs : TypeParams} {returns : String}
    (hps : List.Forall₂ (fun p q => isName p.name.toList = true ∧ p.label = q.1 ∧ IsType p.type q.2)
      ps qs) (hreturns : IsType returns t) :
    IsType (functionText ps returns) (.function qs t) := by
  have hparams : ∃ tss read, List.Forall₂ (fun text ts => Scans text.toList ts)
      (ps.map Parameter.render) tss ∧ List.Forall₂ Reader.IsParam tss read ∧
        List.Forall₂ (fun p q => p.1 = q.1 ∧ Same p.2 q.2) read qs := by
    induction hps with
    | nil => exact ⟨[], [], .nil, .nil, .nil⟩
    | @cons p q ps qs hp _ ih =>
      obtain ⟨tss, read, hscans, hread, hsame⟩ := ih
      obtain ⟨hname, hlabel, ts, u, htype, hu, hsameu, _⟩ := hp
      exact ⟨_ :: tss, (p.label, u) :: read, .cons (scans_param hname htype) hscans,
        .cons (Reader.IsParam.of_label hname hu) hread, .cons ⟨hlabel, hsameu⟩ hsame⟩
  obtain ⟨tss, read, hscans, hread, hsame⟩ := hparams
  obtain ⟨ts, u, hts, hu, hsameu, _⟩ := hreturns
  refine ⟨_, _, ?_, hu.function hread, Same.function hsame hsameu, ?_⟩
  · -- spaces stand only where a token has ended
    have hlist : (functionText ps returns).toList = '(' :: ((Parameter.renderAll ps).toList ++
        ')' :: ' ' :: '=' :: '>' :: ' ' :: returns.toList) := by
      simp [functionText, String.toList_append]
    rw [hlist]
    have harrow := hts.space.arrow.space.sign (c := ')') (by decide)
    exact ((scans_intercalate hscans).append harrow (Token.breaks_cons (by decide) _)).sign
      (by decide)
  · intro hneeds
    rw [needsParens_functionText] at hneeds
    exact absurd hneeds (by decide)

end AmbientDecls
