import AmbientDecls.Build.Fetch
import AmbientDecls.Proofs.Files.Normal

/-! Where entries of archives are written. Double dots take names back without changing where a path leads to, and the path
of an entry has none behind a name. -/

namespace AmbientDecls.Act

open AmbientDecls.Path FileTree

/-- Where relative paths begin without double dots, a path is settled where it leads to. -/
theorem settled_eq {home : Place} (h : ".." ∉ home) (p : Path) : settled home p = p.placeFrom home := by
  unfold settled Path.placeFrom
  rw [settle_eq_foldl, List.foldl_append]
  split
  · rfl
  · rw [FileTree.foldl_below h, List.nil_append]

/-- One more name of a path in which double dots take names back where they can. -/
def climb (absolute : Bool) (names : List String) (n : String) : List String :=
  if n = ".." then
    match names.getLast? with
    | none => if absolute then names else names ++ [n]
    | some last => if last = ".." then names ++ [n] else names.dropLast
  else names ++ [n]

theorem lexical_eq (p : Path) : lexical p = ⟨p.slashes, p.parts.foldl (climb p.isAbsolute) []⟩ := rfl

theorem foldl_below_climb {absolute : Bool} {base : Place} (hbase : absolute = true → base = [])
    (names : List String) (n : String) :
    (climb absolute names n).foldl below base = below (names.foldl below base) n := by
  have hconcat : (names ++ [n]).foldl below base = below (names.foldl below base) n := by
    rw [List.foldl_append]
    rfl
  unfold climb
  by_cases hn : n = ".."
  · rw [if_pos hn]
    cases hlast : names.getLast? with
    | none =>
      obtain rfl := List.getLast?_eq_none_iff.mp hlast
      simp only
      split
      · rename_i habsolute
        rw [hbase habsolute, hn]
        rfl
      · exact hconcat
    | some last =>
      simp only
      split
      · exact hconcat
      · rename_i hname
        obtain ⟨front, rfl⟩ := List.getLast?_eq_some_iff.mp hlast
        rw [List.dropLast_concat, List.foldl_append, List.foldl_cons, List.foldl_nil, hn, below, if_pos rfl, below,
          if_neg hname, List.dropLast_concat]
  · rw [if_neg hn]
    exact hconcat

/-- Taking names back does not change where a path leads to. -/
theorem placeFrom_lexical (p : Path) (home : Place) : (lexical p).placeFrom home = p.placeFrom home := by
  have hbase : p.isAbsolute = true → (if p.isAbsolute then [] else home) = [] := fun habsolute => if_pos habsolute
  rw [lexical_eq]
  unfold placeFrom
  -- each name has the same effect before and after names are taken back
  exact (List.foldl_hom (fun done => done.foldl below (if p.isAbsolute then [] else home))
    fun done n => (foldl_below_climb hbase done n).symm).symm

theorem normal_dots {slashes k : Nat} (h : (slashes != 0) = true → k = 0) :
    (⟨slashes, List.replicate k ".."⟩ : Path).Normal :=
  ⟨k, [], (List.append_nil _).symm, by simp, h⟩

theorem normal_climb {slashes : Nat} {names : List String} (h : (⟨slashes, names⟩ : Path).Normal) (n : String) :
    (⟨slashes, climb (slashes != 0) names n⟩ : Path).Normal := by
  obtain ⟨k, rest, rfl : names = _, hrest, habsolute⟩ := h
  change (slashes != 0) = true → k = 0 at habsolute
  unfold climb
  by_cases hn : n = ".."
  · rw [if_pos hn]
    rcases List.eq_nil_or_concat' rest with rfl | ⟨front, last, rfl⟩
    -- only double dots so far
    · rw [List.append_nil, hn]
      cases k with
      | zero =>
        simp only [List.replicate_zero, List.getLast?_nil]
        split
        · exact normal_dots (k := 0) fun _ => rfl
        · rename_i hroot
          exact normal_dots (k := 1) fun h => absurd h hroot
      | succ k =>
        have hlast : (List.replicate (k + 1) "..").getLast? = some ".." := by
          rw [List.replicate_succ', List.getLast?_concat]
        rw [hlast]
        simp only [if_true]
        rw [← List.replicate_succ']
        exact normal_dots fun hroot => by cases habsolute hroot
    · have hname : last ≠ ".." := by
        rintro rfl
        exact hrest (by simp)
      have hlast : (List.replicate k ".." ++ (front ++ [last])).getLast? = some last := by
        rw [← List.append_assoc, List.getLast?_concat]
      rw [hlast]
      simp only [if_neg hname]
      refine ⟨k, front, ?_, fun hmem => hrest (List.mem_append_left _ hmem), habsolute⟩
      rw [← List.append_assoc, List.dropLast_concat]
  · rw [if_neg hn]
    refine ⟨k, rest ++ [n], List.append_assoc .., fun hmem => ?_, habsolute⟩
    rcases List.mem_append.mp hmem with hmem | hmem
    · exact hrest hmem
    · exact hn (List.mem_singleton.mp hmem).symm

theorem normal_lexical (p : Path) : (lexical p).Normal :=
  List.foldlRecOn (motive := fun done => (⟨p.slashes, done⟩ : Path).Normal) p.parts (climb p.isAbsolute)
    ⟨0, [], rfl, by simp, fun _ => rfl⟩ fun _ h n _ => normal_climb h n

/-- An entry is written at its names below the directory. -/
theorem placeFrom_entryPath (directory : Path) (e : Zip.Entry) (home : Place) :
    (entryPath directory e).placeFrom home =
      directory.placeFrom home ++ (partsOf e.name.toList).filter fun n => n ≠ ".." := by
  unfold entryPath
  rw [placeFrom_lexical]
  unfold placeFrom
  rw [List.foldl_append, FileTree.foldl_below (by simp)]
  rfl

theorem normal_entryPath (directory : Path) (e : Zip.Entry) : (entryPath directory e).Normal := normal_lexical _

section Nul

theorem hasNul_eq_false_iff {p : Path} : p.hasNul = false ↔ ∀ n ∈ p.parts, '\x00' ∉ n.toList := by
  unfold hasNul
  simp only [List.any_eq_false, String.contains_char_eq, decide_eq_true_eq]

theorem hasNul_of_leadsTo {p q : Path} (hp : p.hasNul = false) (h : q.LeadsTo p) : q.hasNul = false :=
  hasNul_eq_false_iff.mpr fun n hn => hasNul_eq_false_iff.mp hp n (h.2.subset hn)

theorem mem_climb {absolute : Bool} {names : List String} {m n : String} (hn : n ∈ climb absolute names m) :
    n ∈ names ∨ n = m := by
  have hconcat : n ∈ names ++ [m] → n ∈ names ∨ n = m := by simp
  unfold climb at hn
  split at hn
  · split at hn
    · split at hn
      · exact Or.inl hn
      · exact hconcat hn
    · split at hn
      · exact hconcat hn
      · exact Or.inl (List.mem_of_mem_dropLast hn)
  · exact hconcat hn

theorem mem_lexical {p : Path} {n : String} : n ∈ (lexical p).parts → n ∈ p.parts := by
  refine List.foldlRecOn (motive := fun done => n ∈ done → n ∈ p.parts) p.parts (climb p.isAbsolute)
    (fun hn => absurd hn List.not_mem_nil) fun done hdone m hm hn => ?_
  rcases mem_climb hn with hn | rfl
  · exact hdone hn
  · exact hm

/-- The name of an entry ends before the first NUL, so the path that it is written to holds none. -/
theorem hasNul_entryPath {directory : Path} (h : directory.hasNul = false) (e : Zip.Entry) :
    (entryPath directory e).hasNul = false := by
  refine hasNul_eq_false_iff.mpr fun n hn => ?_
  rcases List.mem_append.mp (mem_lexical hn) with hn | hn
  · exact hasNul_eq_false_iff.mp h n hn
  · obtain ⟨piece, hpiece, rfl⟩ := List.mem_map.mp (List.mem_filter.mp hn).1
    rw [String.toList_ofList]
    intro hnul
    have hname := Text.mem_of_mem_pieces (List.mem_filter.mp hpiece).1 hnul
    unfold Zip.Entry.name Zip.nameOf at hname
    rw [String.toList_ofList] at hname
    exact absurd (List.all_eq_true.mp List.all_takeWhile _ hname) (by decide)

end Nul

end AmbientDecls.Act
