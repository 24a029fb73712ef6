import AmbientDecls.Proofs.Text.Pairs
import AmbientDecls.Text.Lines

/-! Lines around a text. A text without line boundaries stays whole in one line, whatever stands before and behind it, and
this line is moved to the right with the others. -/

namespace AmbientDecls.Text

section Pieces

variable {p : Char → Bool} {a b x y : List Char} {above below : List (List Char)}

/-- The last piece of a text goes on in the first piece of what follows. -/
theorem pieces_append (ha : pieces p a = above ++ [x]) (hb : pieces p b = y :: below) :
    pieces p (a ++ b) = above ++ (x ++ y) :: below := by
  induction a generalizing above x with
  | nil =>
    cases above with
    | nil =>
      obtain ⟨rfl, _⟩ := List.cons.inj ha
      exact hb
    | cons line above =>
      have hnothing : above ++ [x] = [] := (List.cons.inj ha).2.symm
      exact absurd (List.append_eq_nil_iff.mp hnothing).2 (List.cons_ne_nil x [])
  | cons c a ih =>
    obtain ⟨first, rest, hpieces⟩ := List.exists_cons_of_ne_nil (pieces_ne_nil p a)
    rw [pieces] at ha
    rw [List.cons_append, pieces]
    split at ha
    · rename_i hc
      cases above with
      | nil => exact absurd (List.cons.inj ha).2 (pieces_ne_nil p a)
      | cons line above =>
        obtain ⟨rfl, hrest⟩ := List.cons.inj ha
        rw [if_pos hc, ih hrest]
        rfl
    · rename_i hc
      rw [hpieces] at ha
      cases above with
      | nil =>
        obtain ⟨rfl, rfl⟩ := List.cons.inj ha
        have hopen : pieces p (a ++ b) = [] ++ (first ++ y) :: below := ih hpieces
        rw [if_neg hc, hopen]
        rfl
      | cons line above =>
        obtain ⟨rfl, rfl⟩ := List.cons.inj ha
        have hopen : pieces p (a ++ b) = (first :: above) ++ (x ++ y) :: below := ih hpieces
        rw [if_neg hc, hopen]
        rfl

theorem eq_nil_of_pieces (h : pieces p a = [[]]) : a = [] := by
  cases a with
  | nil => rfl
  | cons c a =>
    rw [pieces] at h
    split at h
    · exact absurd (List.cons.inj h).2 (pieces_ne_nil p a)
    · obtain ⟨first, rest, hpieces⟩ := List.exists_cons_of_ne_nil (pieces_ne_nil p a)
      rw [hpieces] at h
      exact absurd (List.cons.inj h).1 (List.cons_ne_nil c first)

end Pieces

/-- The lines of a text, of which the last one is still open. -/
def openLines (s : List Char) : List (List Char) := pieces isLineEnd (mergeReturns s)

/-- Lines without an empty one at the end. -/
def closed (ls : List (List Char)) : List (List Char) := if ls.getLast? = some [] then ls.dropLast else ls

def shifted (margin line : List Char) : List Char := if line.isEmpty then line else margin ++ line

theorem lines_eq (s : List Char) : lines s = closed (openLines s) := rfl

theorem indented_eq (margin s : List Char) : indented margin s = joined ['\n'] ((lines s).map (shifted margin)) := rfl

theorem shifted_of_ne_nil {margin line : List Char} (h : line ≠ []) : shifted margin line = margin ++ line :=
  if_neg (by simpa using h)

theorem closed_append_cons {above below : List (List Char)} {line : List Char} (h : line ≠ []) :
    closed (above ++ line :: below) = above ++ line :: closed below := by
  cases below with
  | nil =>
    have hlast : (above ++ [line]).getLast? ≠ some [] := by
      rw [List.getLast?_concat]
      exact fun heq => h (Option.some.inj heq)
    exact if_neg hlast
  | cons next below =>
    have hlast : (above ++ line :: next :: below).getLast? = (next :: below).getLast? := by
      rw [List.getLast?_append_cons, List.getLast?_cons_cons]
    unfold closed
    rw [hlast]
    split
    · rw [List.dropLast_append_cons, List.dropLast_cons_cons]
    · rfl

theorem openLines_ne_nil (s : List Char) : openLines s ≠ [] := pieces_ne_nil _ _

theorem openLines_lineFeed (s : List Char) : openLines ('\n' :: s) = [] :: openLines s := by
  have hmerged : mergeReturns (['\n'] ++ s) = ['\n'] ++ mergeReturns s := replacePair_append (by simp)
  rw [openLines, ← List.singleton_append, hmerged]
  rfl

/-- A text that is not empty has a line. -/
theorem lines_ne_nil {s : List Char} (h : s ≠ []) : lines s ≠ [] := by
  intro hlines
  rw [lines_eq, closed] at hlines
  split at hlines
  · rename_i hlast
    obtain ⟨front, hfront⟩ := List.getLast?_eq_some_iff.mp hlast
    rw [hfront, List.dropLast_concat] at hlines
    rw [hlines] at hfront
    have hmerged : mergeReturns s = [] := eq_nil_of_pieces hfront
    exact h (eq_nil_of_replacePair (List.cons_ne_nil _ _) hmerged)
  · exact openLines_ne_nil s hlines

section Unbroken

variable {s : List Char} (hs : ∀ c ∈ s, isLineEnd c = false)

include hs

theorem lineEnd_not_mem {c : Char} (hc : isLineEnd c = true) : c ∉ s := by
  intro hmem
  rw [hs c hmem] at hc
  cases hc

theorem mergeReturns_of_unbroken : mergeReturns s = s := by
  refine replacePair_eq_self fun hpair => ?_
  have hmem : '\n' ∈ s := hpair.subset (by simp)
  exact lineEnd_not_mem hs rfl hmem

theorem mergeReturns_append_unbroken (hne : s ≠ []) (before after : List Char) :
    mergeReturns (before ++ s ++ after) = mergeReturns before ++ s ++ mergeReturns after := by
  have hfirst : (s ++ after).head? ≠ some '\n' := by
    obtain ⟨c, rest, rfl⟩ := List.exists_cons_of_ne_nil hne
    intro hhead
    obtain rfl := Option.some.inj hhead
    exact lineEnd_not_mem hs rfl (List.mem_cons_self ..)
  have hlast : s.getLast? ≠ some '\r' := fun hlast => lineEnd_not_mem hs rfl (List.mem_of_getLast? hlast)
  calc mergeReturns (before ++ s ++ after)
      = mergeReturns before ++ mergeReturns (s ++ after) := by
        rw [List.append_assoc]
        exact replacePair_append fun hborder => hfirst hborder.2
    _ = mergeReturns before ++ (mergeReturns s ++ mergeReturns after) := by
        have hborder : ¬ (s.getLast? = some '\r' ∧ after.head? = some '\n') := fun hborder => hlast hborder.1
        rw [mergeReturns, mergeReturns, replacePair_append hborder]
        rfl
    _ = mergeReturns before ++ s ++ mergeReturns after := by
        rw [mergeReturns_of_unbroken hs, List.append_assoc]

/-- A text without boundaries goes on in the line that is open before it, and the first line behind it goes on in the same
line. -/
theorem lines_around (hne : s ≠ []) {before after x y : List Char} {above below : List (List Char)}
    (hbefore : openLines before = above ++ [x]) (hafter : openLines after = y :: below) :
    lines (before ++ s ++ after) = above ++ (x ++ s ++ y) :: closed below := by
  have hpieces : openLines (before ++ s ++ after) = above ++ (x ++ s ++ y) :: below := by
    have hs' : pieces isLineEnd s = s :: [] := pieces_eq_singleton hs
    rw [openLines, mergeReturns_append_unbroken hs hne]
    exact pieces_append (pieces_append hbefore hs') hafter
  have hline : x ++ s ++ y ≠ [] := by simp [hne]
  rw [lines_eq, hpieces, closed_append_cons hline]

/-- The line of the text is moved to the right as a whole. -/
theorem indented_around (hne : s ≠ []) {before after x y : List Char} {above below : List (List Char)}
    (hbefore : openLines before = above ++ [x]) (hafter : openLines after = y :: below) (margin : List Char) :
    indented margin (before ++ s ++ after) = joined ['\n']
      (above.map (shifted margin) ++ (margin ++ (x ++ s ++ y)) :: (closed below).map (shifted margin)) := by
  have hline : x ++ s ++ y ≠ [] := by simp [hne]
  rw [indented_eq, lines_around hs hne hbefore hafter, List.map_append, List.map_cons, shifted_of_ne_nil hline]

theorem lines_of_unbroken (hne : s ≠ []) : lines s = [s] := by
  have hnothing : openLines [] = [] ++ [[]] := rfl
  have hlines := lines_around hs hne hnothing hnothing
  simpa [closed] using hlines

theorem lines_append_lineFeed (hne : s ≠ []) (rest : List Char) : lines (s ++ '\n' :: rest) = s :: lines rest := by
  have hnothing : openLines [] = [] ++ [[]] := rfl
  have hlines := lines_around hs hne hnothing (openLines_lineFeed rest)
  simpa [lines_eq] using hlines

/-- A line with more behind it is moved to the right by itself. -/
theorem indented_append_lineFeed (hne : s ≠ []) {rest : List Char} (hrest : rest ≠ []) (margin : List Char) :
    indented margin (s ++ '\n' :: rest) = margin ++ s ++ '\n' :: indented margin rest := by
  have hlines : (lines rest).map (shifted margin) ≠ [] := by
    rw [Ne, List.map_eq_nil_iff]
    exact lines_ne_nil hrest
  rw [indented_eq, lines_append_lineFeed hs hne, List.map_cons, joined_cons hlines, shifted_of_ne_nil hne,
    List.append_assoc (margin ++ s)]
  rfl

theorem indented_of_unbroken (hne : s ≠ []) (margin : List Char) : indented margin s = margin ++ s := by
  rw [indented_eq, lines_of_unbroken hs hne]
  exact shifted_of_ne_nil hne

end Unbroken

end AmbientDecls.Text
