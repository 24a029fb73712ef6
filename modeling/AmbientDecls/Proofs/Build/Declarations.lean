import AmbientDecls.Proofs.Build.Lexical
import AmbientDecls.Proofs.Build.Places

/-! The file of declarations lies two names below the base directory, whatever the version is called: a safe name is no
text of dots and holds no separator, so no double dots in the base can reach past it. -/

namespace AmbientDecls

namespace Path

theorem lexical_append {p : Path} {names : List String} (h : ".." ∉ names) :
    Act.lexical ⟨p.slashes, p.parts ++ names⟩ = ⟨p.slashes, (Act.lexical p).parts ++ names⟩ := by
  have hclimb : ∀ done : List String, names.foldl (Act.climb p.isAbsolute) done = done ++ names := by
    induction names with
    | nil => exact fun done => (List.append_nil done).symm
    | cons n names ih =>
      have hn : n ≠ ".." := fun heq => h (heq ▸ List.mem_cons_self ..)
      intro done
      rw [List.foldl_cons, ih (fun hmem => h (List.mem_cons_of_mem _ hmem)), Act.climb, if_neg hn, List.append_assoc]
      rfl
  rw [Act.lexical_eq, Act.lexical_eq]
  change (⟨p.slashes, (p.parts ++ names).foldl (Act.climb p.isAbsolute) []⟩ : Path) = _
  rw [List.foldl_append, hclimb]

end Path

namespace Output

/-- Declarations stay inside the base directory: their path is that of the base and two names more, of which the first is
not empty, holds no separator and is no text of dots. Followed by the names alone, with double dots taken back, or from any
place on, it ends two names below where the base ends. -/
theorem declarationPath_below (base : Path) (name : String) :
    (safeName name ≠ "" ∧ '/' ∉ (safeName name).toList ∧ '\\' ∉ (safeName name).toList ∧
      safeName name ≠ "." ∧ safeName name ≠ "..") ∧
    declarationPath base name = ⟨base.slashes, base.parts ++ [safeName name, safeName name ++ ".d.ts"]⟩ ∧
    Act.lexical (declarationPath base name) =
      ⟨(Act.lexical base).slashes, (Act.lexical base).parts ++ [safeName name, safeName name ++ ".d.ts"]⟩ ∧
    ∀ home, (declarationPath base name).placeFrom home =
      base.placeFrom home ++ [safeName name, safeName name ++ ".d.ts"] := by
  obtain ⟨hempty, hdot⟩ := safeName_named name
  have hdots : safeName name ≠ ".." := safeName_ne (by simp) name
  have hbackslash : '\\' ∉ (safeName name).toList := fun hmem => by
    have hsafe := safeName_safe name _ hmem
    simp [isSafe, Text.isWordChar] at hsafe
  have hfile : safeName name ++ ".d.ts" ≠ ".." := append_ne_of_length_lt (by decide)
  have hnames : ".." ∉ [safeName name, safeName name ++ ".d.ts"] := by
    simpa using ⟨hdots.symm, hfile.symm⟩
  refine ⟨⟨hempty, safeName_slash name, hbackslash, hdot, hdots⟩, declarationPath_eq base name, ?_, fun home => ?_⟩
  · rw [declarationPath_eq, Path.lexical_append hnames]
    rfl
  · rw [declarationPath_eq, Path.placeFrom_append hnames]

end Output
end AmbientDecls
