import AmbientDecls.Proofs.Data.Ascending
import AmbientDecls.Proofs.Emit.Bases

/-! The options along the bases of a configuration interface. An interface lists what its class documents and no base of
it does, so that every option stands in one interface only, the farthest one whose class documents it. -/

namespace AmbientDecls

/-- The options of a class that none of its configuration bases documents, in the order of their first records. -/
def Registry.newOptions (r : Registry) (c : ClassRef) : List String :=
  ((c.options.map fun m => m.name).filter fun n =>
    !(r.configBases c).any fun b => b.documents n .config).eraseDups

namespace ClassRecord

theorem documents_config_iff (c : ClassRecord) (n : String) :
    c.documents n .config = true ↔ n ∈ c.options.map fun m => m.name := by
  simp [documents, options, and_comm, and_left_comm]

end ClassRecord

namespace Registry

theorem mem_allOptionNames {r : Registry} {c : ClassRef} {n : String} : n ∈ r.allOptionNames c ↔
    ∃ d ∈ c :: r.configBases c, d.documents n .config = true := by
  rw [allOptionNames, List.mem_eraseDups, List.mem_flatMap, ← List.map_cons]
  simp only [List.mem_map, ClassRecord.optionNames, List.mem_eraseDups,
    ClassRecord.documents_config_iff, exists_exists_and_eq_and]

variable {records : List ClassRecord} {c : ClassRef}

end Registry

namespace Emitter

theorem map_configFields (e : Emitter) (ms : List Member) (seen : List String) (s : EmitState) :
    ((e.configFields ms seen).run s).1.map ConfigField.name =
      (firsts Member.name seen (ms.filter fun m => m.kind = .config)).map Member.name := by
  induction ms generalizing seen s with
  | nil => rfl
  | cons m ms ih =>
    unfold configFields
    cases hbody : m.body with
    | property type optional =>
      rw [List.filter_cons_of_neg (by simp [Member.kind, hbody])]
      exact ih seen s
    | method params returns =>
      rw [List.filter_cons_of_neg (by simp [Member.kind, hbody])]
      exact ih seen s
    | config type optional required =>
      rw [List.filter_cons_of_pos (by simp [Member.kind, hbody])]
      by_cases hseen : m.name ∈ seen
      · rw [firsts_cons_of_mem hseen]
        simp only [List.contains_iff_mem, hseen, if_true]
        exact ih seen s
      · rw [firsts_cons_of_not_mem hseen]
        simp only [List.contains_iff_mem, hseen, if_false]
        exact congrArg (List.cons m.name) (ih (m.name :: seen) _)

variable {records : List ClassRecord} (config : EmitterConfig) (c : ClassRef) (s : EmitState)

/-- The interface of a class refers to its base and has a field for each new option. -/
theorem configInterface_fields :
    let r := Registry.ofRecords records
    let i := (((⟨r, config⟩ : Emitter).configInterface c).run s).1
    i.base = (r.configBase? c).map (fun b => b.qualifiedConfigName) ∧
      i.fields.map ConfigField.name = r.newOptions c := by
  intro r i
  refine ⟨rfl, ?_⟩
  have hfields := map_configFields ⟨r, config⟩ c.members
    ((r.configBase? c |>.map r.allOptionNames).getD []) s
  refine hfields.trans ?_
  rw [map_firsts, Registry.newOptions]
  congr 1
  refine List.filter_congr fun n _ => ?_
  rw [Bool.eq_iff_iff, decide_eq_true_iff, Bool.not_eq_true', ← Bool.not_eq_true, not_iff_not,
    List.any_eq_true, Registry.configBases_eq]
  cases r.configBase? c with
  | none => simp
  | some b => exact Registry.mem_allOptionNames

theorem config_classDecl (e : Emitter) (h : e.registry.emitsConstructor c = true) :
    ((e.classDecl c).run s).1.config = some ((e.configInterface c).run s).1 := by
  unfold classDecl
  rw [if_pos h]
  rfl

end Emitter

/-! A class with an option, and one below it that documents this option again and another one twice. -/

namespace Registry

end Registry
end AmbientDecls
