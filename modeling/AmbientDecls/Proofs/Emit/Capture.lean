import AmbientDecls.Proofs.Emit.Builtins

/-! Namespaces inside each other. Only the classes of a module itself keep it from calling a built-in type by its name, and
no class keeps it from using an alias, so a class may have the name that stands for a built-in type. -/

namespace AmbientDecls

/-- A module around another: in its dotted name it comes before a dot, or it has no name. What it declares is in scope in
the inner one. -/
def Module.Encloses (outer inner : Module) : Prop :=
  outer.name = "" ∧ inner.name ≠ "" ∨ ∃ rest, inner.name = outer.name ++ "." ++ rest

namespace Registry

open Emitter

/-- A class of the module has the name that stands for a built-in type exactly if that name is an alias and a class is
called like it. A class around the module has it exactly if it is called like the alias of a type that the module
hides, or like a type that it does not hide. -/
theorem captured_builtin_iff (records : List ClassRecord) (config : EmitterConfig) {m : Module}
    {target text : String} (h : Prints ⟨ofRecords records, config⟩ m target text) :
    let a := config.aliasPrefix ++ identifier target
    ∃ name, text = name ++ Slot.brackets (Slot.markers target.toList) ∧
      (m.Declares name ↔ m.Declares (identifier target) ∧ m.Declares a) ∧
      ∀ outer ∈ (ofRecords records).modules, outer.Encloses m → (outer.Declares name ↔
        m.Declares (identifier target) ∧ outer.Declares a ∨
          ¬ m.Declares (identifier target) ∧ outer.Declares (identifier target)) := by
  intro a
  obtain ⟨_, name, htext, hhidden, hplain⟩ := h.text_eq
  refine ⟨name, htext, ?_, fun outer _ _ => ?_⟩
  · by_cases hdeclares : m.Declares (identifier target)
    · rw [hhidden hdeclares]
      exact (and_iff_right hdeclares).symm
    · rw [hplain hdeclares]
      exact ⟨fun hname => absurd hname hdeclares, fun hboth => hboth.1⟩
  · by_cases hdeclares : m.Declares (identifier target)
    · rw [hhidden hdeclares]
      simp [hdeclares, a]
    · rw [hplain hdeclares]
      simp [hdeclares]

theorem captured_builtin_iff_exampleClock :
    let m := exampleCalendar.moduleNamed "Ext.util"
    let outer := exampleCalendar.moduleNamed "Ext"
    (Prints ⟨exampleCalendar, {}⟩ m "Date" "Date" ∧ outer ∈ exampleCalendar.modules ∧
      outer.Encloses m) ∧ ¬ m.Declares "Date" ∧ outer.Declares "Date" := by
  intro m outer
  have houter : outer ∈ exampleCalendar.modules :=
    mem_modules_moduleNamed (c := ⟨exampleDate, some 0⟩) (List.mem_cons_self ..)
  have hencloses : outer.Encloses m := Or.inr ⟨"util", rfl⟩
  have hfree : ∀ name ∈ ["Date", "__Date"], ¬ m.Declares name := by
    have hclasses : (m.classes.map fun c => c.baseName) = ["Clock"] := rfl
    simp [Module.Declares, hclasses]
  obtain ⟨name, htext, hiff, hcaptured⟩ := captured_builtin_iff
    [exampleDate, exampleNamesake, exampleClock] {} prints_exampleClock
  obtain rfl : "Date" = name := htext.trans String.append_empty
  have hdate := hfree "Date" (List.mem_cons_self ..)
  refine ⟨⟨prints_exampleClock, houter, hencloses⟩, fun h => hdate h, ?_⟩
  exact (hcaptured outer houter hencloses).mpr (Or.inr ⟨hdate, List.mem_cons_self ..⟩)

/-- A module below that of a class calls the built-in type of its name by this name, and an alias may be called like a class
of its module. -/
theorem builtin_captured :
    let e : Emitter := ⟨exampleCalendar, {}⟩
    (∃ m ∈ exampleCalendar.modules, ∃ outer ∈ exampleCalendar.modules, outer.Encloses m ∧
      e.Prints m "Date" "Date" ∧ outer.Declares "Date") ∧
    ∃ m ∈ exampleCalendar.modules, e.Prints m "Date" "__Date" ∧ m.Declares "__Date" := by
  intro e
  have hinner : exampleCalendar.moduleNamed "Ext.util" ∈ exampleCalendar.modules :=
    mem_modules_moduleNamed (c := ⟨exampleClock, some 2⟩)
      (List.mem_cons_of_mem _ (List.mem_cons_of_mem _ (List.mem_cons_self ..)))
  have houter : exampleCalendar.moduleNamed "Ext" ∈ exampleCalendar.modules :=
    mem_modules_moduleNamed (c := ⟨exampleDate, some 0⟩) (List.mem_cons_self ..)
  refine ⟨⟨_, hinner, _, houter, Or.inr ⟨"util", rfl⟩, prints_exampleClock, ?_⟩,
    _, houter, prints_exampleDate, ?_⟩
  · exact List.mem_cons_self ..
  · exact List.mem_cons_of_mem _ (List.mem_cons_self ..)

end Registry
end AmbientDecls
