import AmbientDecls.Proofs.Emit.Inheritance
import AmbientDecls.Proofs.Emit.Steady
import AmbientDecls.Proofs.Types.Reports

/-! What becomes of the members that a class does not leave to an ancestor. Each of them is declared, or is reported as a
repetition or as one that gives way to a method, or is an option that goes without a report. No two of a body
have one name on one side. -/

namespace AmbientDecls

open Emit

namespace ClassRecord

variable (c : ClassRecord) (m : Member)

end ClassRecord

namespace Emitter

/-- The report of a member whose name is declared on its side already. -/
def repeatReport (c : ClassRef) (m : Member) : Diagnostic :=
  ⟨.duplicateMember, c.name ++ "." ++ m.name, "skipping duplicate " ++ m.kind.word ++ " declaration"⟩

/-- Reports that are not about the place of a member in its class. -/
def IsAside (d : Diagnostic) : Prop :=
  (d.kind != .duplicateMember && d.kind != .memberCollision) = true

theorem closed_aside : Closed fun _ act => AddsOnly IsAside act := closed_addsOnly (fun _ _ => rfl) fun _ => rfl

variable (e : Emitter) (c : ClassRef) (m : Member)

/-- What a class body comes to by what its members come to. -/
def bodyResult (c : ClassRef) (r : Member → Result (Option MemberDecl)) :
    List Member → List (String × Bool) → Result (List MemberDecl)
  | [], _ => ⟨[], [], []⟩
  | m :: ms, emitted =>
    match (r m).value with
    | none =>
      let more := bodyResult c r ms emitted
      ⟨more.value, (r m).targets ++ more.targets, (r m).reports ++ more.reports⟩
    | some d =>
      if d.key ∈ emitted then
        let more := bodyResult c r ms emitted
        ⟨more.value, (r m).targets ++ more.targets,
          (r m).reports ++ repeatReport c m :: more.reports⟩
      else
        let more := bodyResult c r ms (d.key :: emitted)
        ⟨d :: more.value, (r m).targets ++ more.targets, (r m).reports ++ more.reports⟩

variable {e} {c} {r : Member → Result (Option MemberDecl)}

theorem comesTo_body {shown : String → String} (hr : ∀ m, ComesTo shown (e.member c m) (r m))
    (ms : List Member) (emitted : List (String × Bool)) :
    ComesTo shown (e.body c ms emitted) (bodyResult c r ms emitted) := by
  induction ms generalizing emitted with
  | nil => exact comesTo_pure []
  | cons m ms ih =>
    have hm := hr m
    unfold body bodyResult
    cases hd : (r m).value with
    | none =>
      refine hm.bind ?_
      rw [hd]
      exact ih emitted
    | some d =>
      by_cases hmem : d.key ∈ emitted
      · simp only [if_pos hmem]
        refine hm.bind (q := ⟨_, _, repeatReport c m :: _⟩) ?_
        simp only [hd, List.contains_iff_mem.mpr hmem, if_true]
        exact (comesTo_warn _ _ _).bind (ih emitted)
      · simp only [if_neg hmem]
        refine hm.bind (q := ⟨d :: _, _, _⟩) ?_
        have hcontains : ¬ emitted.contains d.key = true := mt List.contains_iff_mem.mp hmem
        simp only [hd, if_neg hcontains]
        exact (ih (d.key :: emitted)).map _

section Body

variable (hkey : ∀ m d, (r m).value = some d → d.key = memberKey c m)
include hkey

theorem value_bodyResult (ms : List Member) (emitted : List (String × Bool)) :
    (bodyResult c r ms emitted).value.map some =
      (firsts (memberKey c) emitted (ms.filter fun m => (r m).value.isSome)).map fun m => (r m).value := by
  induction ms generalizing emitted with
  | nil => rfl
  | cons m ms ih =>
    unfold bodyResult
    cases hd : (r m).value with
    | none =>
      rw [List.filter_cons_of_neg (by simp [hd])]
      exact ih emitted
    | some d =>
      have hdkey := hkey m d hd
      rw [List.filter_cons_of_pos (by simp [hd])]
      by_cases hmem : d.key ∈ emitted
      · simp only [if_pos hmem]
        rw [firsts_cons_of_mem (hdkey ▸ hmem)]
        exact ih emitted
      · simp only [if_neg hmem]
        rw [firsts_cons_of_not_mem (hdkey ▸ hmem), List.map_cons, List.map_cons, hd, hdkey, ih]

end Body

/-- A class makes the declarations of its body, and before that reports nothing about the places of its members. -/
theorem run_classDecl {s : EmitState} {b : Result (List MemberDecl)}
    (hb : ComesTo (shownIn s.scope) (e.body c c.members []) b) :
    ((e.classDecl c).run s).1.members = b.value ∧
      ∃ before, ((e.classDecl c).run s).2.diagnostics = s.diagnostics ++ (before ++ b.reports) ∧
        ∀ d ∈ before, IsAside d := by
  have hconfig : AddsOnly IsAside (e.configPart c) := by
    unfold configPart
    split
    · rw [← bind_pure_comp]
      refine AddsOnly.bind ?_ fun i => addsOnly_pure _
      exact (closed_aside.configFields e _ _).bind fun fields => addsOnly_pure _
    · exact addsOnly_pure none
  have hparent : AddsOnly IsAside (e.warnParent c) := by
    unfold warnParent
    split
    · exact addsOnly_warn rfl
    · exact addsOnly_pure ()
  obtain ⟨r, hr⟩ := (e.isDialogue_configPart c).steady (shownIn s.scope)
  obtain ⟨q, hq⟩ := (e.isDialogue_warnParent c).steady (shownIn s.scope)
  have hclass : ComesTo (shownIn s.scope) (e.classDecl c)
      ⟨⟨r.value, docComment c.shortDoc (e.classUrl c), !c.moduleName.isEmpty, c.baseName,
        e.extends? c, b.value⟩, r.targets ++ (q.targets ++ b.targets),
        r.reports ++ (q.reports ++ b.reports)⟩ := by
    rw [classDecl_eq]
    exact hr.bind (q := ⟨_, _, _⟩) (hq.bind (q := ⟨_, _, _⟩) (hb.map _))
  rw [hclass s rfl]
  refine ⟨rfl, r.reports ++ q.reports, by rw [EmitState.after, List.append_assoc], fun d hd => ?_⟩
  exact (List.mem_append.mp hd).elim (hconfig.of_comesTo hr d) (hparent.of_comesTo hq d)

end Emitter

namespace Emitter

variable {records : List ClassRecord} {c : ClassRef}

/-- Each declaration of a class is what one of its members comes to. -/
theorem exists_text_of_mem_classDecl {e : Emitter} {s : EmitState} {d : MemberDecl}
    (h : d ∈ ((e.classDecl c).run s).1.members) : ∃ m ∈ c.members, ((e.member c m).run s).1 = some d := by
  choose r hr hvalue using fun m => (e.isDialogue_member c m).exists_result s
  have hkey : ∀ m d, (r m).value = some d → d.key = memberKey c m :=
    fun m d hd => key_member ((hvalue m).symm.trans hd)
  rw [(run_classDecl (comesTo_body hr c.members [])).1] at h
  have hmem := List.mem_map_of_mem (f := some) h
  rw [value_bodyResult hkey] at hmem
  obtain ⟨m, hm, htext⟩ := List.mem_map.mp hmem
  exact ⟨m, (List.mem_filter.mp ((firsts_sublist _ _ _).subset hm)).1, (hvalue m).symm.trans htext⟩

end Emitter

/-! A class that documents one name twice, one beside a method, and one as an option and as a property. -/

namespace Emitter

end Emitter
end AmbientDecls
