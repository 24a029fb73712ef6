import AmbientDecls.Proofs.Data.Ascending
import AmbientDecls.Proofs.Docs.Lookup
import Mathlib.Data.List.Nodup

/-! Classes by module. The modules of a registry ascend strictly by name, every class is in the one of its name, and a class
is called by its module and its base name, unless the last dot of its name stands first. -/

namespace AmbientDecls

namespace Registry

variable (records : List ClassRecord)

theorem nodup_classes : (ofRecords records).classes.Nodup := by
  have hplaces : (placed records).map (fun c => c.place) = (List.range records.length).map some := by
    rw [placed, List.map_map, List.range_eq_range', ← List.zipIdx_map_snd 0 records, List.map_map]
    rfl
  refine List.Nodup.of_map (fun c => c.place) ?_
  rw [classes_ofRecords, hplaces]
  exact List.nodup_range.map fun _ _ heq => Option.some.inj heq

variable {r : Registry}

theorem mem_modules_iff {m : Module} : m ∈ r.modules ↔
    m.name ∈ r.moduleNames ∧ m.classes = r.classes.filter fun c => c.moduleName = m.name := by
  rw [modules, List.mem_map]
  constructor
  · rintro ⟨name, hname, rfl⟩
    exact ⟨hname, rfl⟩
  · rintro ⟨hname, hclasses⟩
    exact ⟨m.name, hname, by rw [← hclasses]⟩

end Registry

namespace ClassRecord

variable (c : ClassRecord)

/-- The name by which a class is found where it is declared: its base name in the namespace of its module. -/
def spelledName : String :=
  if c.moduleName.isEmpty then c.baseName else c.moduleName ++ "." ++ c.baseName

/-- The last dot of the name stands first. -/
def OpensWithLastDot : Prop := ∃ s, c.name.toList = '.' :: s ∧ '.' ∉ s

theorem nameParts_eq_iff {s : List Char} (hs : '.' ∉ s) :
    c.nameParts = [[], s] ↔ c.name.toList = '.' :: s := by
  constructor
  · intro h
    rw [← Text.joined_pieces '.' c.name.toList]
    exact congrArg (Text.joined ['.']) h
  · intro h
    have hpieces : Text.pieces (· == '.') s = [s] :=
      Text.pieces_eq_singleton fun x hx => beq_false_of_ne fun heq => hs (heq ▸ hx)
    rw [nameParts, h, Text.pieces, hpieces]
    rfl

theorem joined_eq_nil_iff {pieces : List (List Char)} :
    Text.joined ['.'] pieces = [] ↔ pieces = [] ∨ pieces = [[]] := by
  cases pieces with
  | nil => simp [Text.joined]
  | cons s rest =>
    cases rest with
    | nil => simp [Text.joined]
    | cons t rest => simp [Text.joined]

/-- Module and base name make up the name again, unless it begins with its last dot. -/
theorem spelledName_eq_name_iff : c.spelledName = c.name ↔ ¬ c.OpensWithLastDot := by
  obtain ⟨before, last, hparts⟩ : ∃ before last, c.nameParts = before ++ [last] :=
    ⟨_, _, (List.dropLast_append_getLast (Text.pieces_ne_nil _ _)).symm⟩
  have hbase : c.baseName = String.ofList last := by simp [baseName, hparts]
  have hmodule : c.moduleName = String.ofList (Text.joined ['.'] before) := by
    simp [moduleName, hparts]
  have hname : c.name.toList = Text.joined ['.'] (before ++ [last]) := by
    rw [← hparts, nameParts, Text.joined_pieces]
  have hlast : '.' ∉ last := Text.not_mem_of_mem_pieces (by
    rw [← nameParts, hparts]
    exact List.mem_append_right before (List.mem_singleton_self last))
  have hdotted : c.OpensWithLastDot ↔ before = [[]] := by
    constructor
    · rintro ⟨s, hs, hdot⟩
      have hsplit : before ++ [last] = [[]] ++ [s] := by
        rw [← hparts, (nameParts_eq_iff c hdot).mpr hs]
        rfl
      exact (List.append_inj' hsplit rfl).1
    · rintro rfl
      exact ⟨last, (nameParts_eq_iff c hlast).mp hparts, hlast⟩
  rw [hdotted, spelledName, hmodule, hbase, ← String.toList_inj, hname]
  cases before with
  | nil => simp [Text.joined]
  | cons first rest =>
    rw [Text.joined_append_singleton (List.cons_ne_nil first rest)]
    by_cases hroot : first :: rest = [[]]
    · simp [hroot, Text.joined]
    · have hfilled : Text.joined ['.'] (first :: rest) ≠ [] := by
        rw [ne_eq, joined_eq_nil_iff]
        simpa using hroot
      simp [hroot, hfilled, String.toList_append]

end ClassRecord
end AmbientDecls
