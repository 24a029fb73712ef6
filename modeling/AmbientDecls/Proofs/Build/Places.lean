import AmbientDecls.Proofs.Build.Footprint
import AmbientDecls.Proofs.Build.Stages
import AmbientDecls.Proofs.Files.Normal
import AmbientDecls.Proofs.Files.SafeNames

/-! Where a build writes. The file of the declarations, the one that refers to them and a partial download end in different
names, so they are in different places whatever the version is called. -/

namespace AmbientDecls

/-- A text without slashes is one name. -/
theorem Path.ofText_of_name {s : String} (hslash : '/' ∉ s.toList) (hempty : s ≠ "") (hdot : s ≠ ".") :
    ofText s = ⟨0, [s]⟩ := by
  have hpieces : Text.pieces (· == '/') s.toList = [s.toList] :=
    Text.pieces_eq_singleton fun c hc => beq_false_of_ne fun heq => hslash (heq ▸ hc)
  have hparts : partsOf s.toList = [s] := by
    have hfilled : s.toList ≠ [] := fun heq => hempty (String.toList_inj.mp heq)
    have hname : s.toList ≠ ['.'] := fun heq => hdot (String.toList_inj.mp heq)
    simp [partsOf, hpieces, hfilled, hname]
  have hroot : rootOf s.toList = 0 := by
    cases hs : s.toList with
    | nil => rfl
    | cons c rest =>
      have hc : c ≠ '/' := by
        rintro rfl
        exact hslash (hs ▸ List.mem_cons_self ..)
      unfold rootOf
      split <;> simp_all
  rw [ofText, hparts, hroot]

theorem Path.child_of_name {s : String} (hslash : '/' ∉ s.toList) (hempty : s ≠ "") (hdot : s ≠ ".")
    (p : Path) : p.child s = ⟨p.slashes, p.parts ++ [s]⟩ := by
  change append p (ofText s) = _
  rw [ofText_of_name hslash hempty hdot]
  rfl

/-- A text without slashes is a name below a path, or stands for nothing. -/
theorem Path.child_cases {s : String} (h : '/' ∉ s.toList) (p : Path) :
    p.child s = p ∨ p.child s = ⟨p.slashes, p.parts ++ [s]⟩ := by
  have hnothing : ofText s = ⟨0, []⟩ → p.child s = p := by
    intro hs
    change append p (ofText s) = p
    rw [hs]
    simp [append, isAbsolute]
  by_cases hempty : s = ""
  · exact Or.inl (hnothing (by rw [hempty]; decide +kernel))
  · by_cases hdot : s = "."
    · exact Or.inl (hnothing (by rw [hdot]; decide +kernel))
    · exact Or.inr (child_of_name h hempty hdot p)

/-- Names behind a path that are no double dots. -/
theorem Path.placeFrom_append {p : Path} {names : List String} (h : ".." ∉ names) (home : Place) :
    (⟨p.slashes, p.parts ++ names⟩ : Path).placeFrom home = p.placeFrom home ++ names := by
  unfold placeFrom
  rw [List.foldl_append, FileTree.foldl_below h]
  rfl

theorem Path.placeFrom_concat {n : String} (p : Path) (hn : n ≠ "..") (home : Place) :
    (⟨p.slashes, p.parts ++ [n]⟩ : Path).placeFrom home = p.placeFrom home ++ [n] :=
  placeFrom_append (by simpa using hn.symm) home

/-- Texts with different endings of one length are different. -/
theorem ne_of_endings {s t a b : String} (hlength : a.length = b.length) (hne : a ≠ b) :
    s ++ a ≠ t ++ b := by
  intro heq
  have hlist := congrArg String.toList heq
  rw [String.toList_append, String.toList_append] at hlist
  refine hne (String.toList_inj.mp (List.append_inj_right' hlist ?_))
  rw [String.length_toList, String.length_toList, hlength]

theorem append_ne_of_length_lt {s a b : String} (h : b.length < a.length) : s ++ a ≠ b := by
  rintro rfl
  rw [String.length_append] at h
  omega

theorem slash_append {s a : String} (hs : '/' ∉ s.toList) (ha : '/' ∉ a.toList) : '/' ∉ (s ++ a).toList := by
  rw [String.toList_append, List.mem_append]
  exact not_or.mpr ⟨hs, ha⟩

/-- The declarations are written into a directory that is called after the version. -/
theorem Output.declarationPath_eq (base : Path) (name : String) :
    declarationPath base name = ⟨base.slashes, base.parts ++ [safeName name, safeName name ++ ".d.ts"]⟩ := by
  obtain ⟨hempty, hdot⟩ := safeName_named name
  have hslash : '/' ∉ (safeName name ++ ".d.ts").toList := slash_append (safeName_slash name) (by decide)
  change (base.child (safeName name)).child (safeName name ++ ".d.ts") = _
  rw [Path.child_of_name hslash (append_ne_of_length_lt (by decide)) (append_ne_of_length_lt (by decide)),
    Path.child_of_name (safeName_slash name) hempty hdot]
  simp

namespace BuildTask

variable (t : BuildTask) (home : Place)

/-- Where the declarations are written. -/
def declared : Place := t.places.declaration.placeFrom home

/-- The name of the file of the declarations. -/
def declaredName : String := Output.safeName t.version.name ++ ".d.ts"

theorem declaredName_ne {n : String} (h : n.length < 5) : t.declaredName ≠ n :=
  append_ne_of_length_lt h

theorem directory_eq : t.places.directory =
    ⟨(Path.ofText t.config.output.baseDir).slashes,
      (Path.ofText t.config.output.baseDir).parts ++ [Output.safeName t.version.name]⟩ := by
  change (Output.declarationPath _ _).parent = _
  rw [Output.declarationPath_eq, Path.parent, List.append_cons, List.dropLast_concat]

theorem declaration_eq : t.places.declaration =
    ⟨t.places.directory.slashes, t.places.directory.parts ++ [t.declaredName]⟩ := by
  rw [directory_eq, List.append_assoc]
  exact Output.declarationPath_eq _ _

theorem directory_filled : t.places.directory.parts ≠ [] := by
  rw [directory_eq]
  simp

theorem reference_eq : t.reference =
    ⟨t.places.directory.slashes, t.places.directory.parts ++ [Act.referenceName]⟩ :=
  Path.child_of_name (by decide) (by decide) (by decide) _

theorem docs_eq (h : '/' ∉ t.version.folder.toList) : t.places.docs =
    ⟨t.places.directory.slashes, t.places.directory.parts ++ [t.version.folder ++ ".docs"]⟩ :=
  Path.child_of_name (slash_append h (by decide)) (append_ne_of_length_lt (by decide))
    (append_ne_of_length_lt (by decide)) _

theorem declared_eq : t.declared home = t.places.directory.placeFrom home ++ [t.declaredName] := by
  rw [declared, declaration_eq, Path.placeFrom_concat _ (t.declaredName_ne (by decide))]

theorem placeFrom_reference :
    t.reference.placeFrom home = t.places.directory.placeFrom home ++ [Act.referenceName] := by
  rw [reference_eq, Path.placeFrom_concat _ (by decide)]

theorem reference_ne_declared : t.reference.placeFrom home ≠ t.declared home := by
  rw [declared_eq, placeFrom_reference]
  intro heq
  have hname : Act.referenceName = t.declaredName := by simpa using heq
  change "te" ++ "st.ts" = Output.safeName t.version.name ++ ".d.ts" at hname
  exact ne_of_endings (by decide) (by decide) hname

theorem partPath_ne_declared (archive : Path) :
    (Act.partPath archive).placeFrom home ≠ t.declared home := by
  have hpart : (Act.partPath archive).placeFrom home = archive.parent.placeFrom home ++ [archive.name ++ ".part"] :=
    Path.placeFrom_concat archive.parent (append_ne_of_length_lt (by decide)) home
  rw [hpart, declared_eq]
  intro heq
  have hname : archive.name ++ ".part" = t.declaredName := by simpa using congrArg List.getLast? heq
  exact ne_of_endings (by decide) (by decide) hname

end BuildTask
end AmbientDecls
