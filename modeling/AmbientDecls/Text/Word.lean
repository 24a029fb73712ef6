import AmbientDecls.Text.WordRanges

/-! Word characters: letters, digits and other numbers of any script, and the underscore. -/

namespace AmbientDecls.Text

def inRanges (ranges : List (Nat × Nat)) (n : Nat) : Bool :=
  ranges.any fun (lo, hi) => lo ≤ n && n ≤ hi

theorem inRanges_iff {ranges : List (Nat × Nat)} {n : Nat} :
    inRanges ranges n = true ↔ ∃ r ∈ ranges, r.1 ≤ n ∧ n ≤ r.2 := by
  simp [inRanges]

def isWordChar (c : Char) : Bool :=
  if c.toNat < 0x80 then c.isAlphanum || c == '_' else inRanges wordRanges c.toNat

theorem isWordChar_of_isAlphanum {c : Char} (hc : c.toNat < 0x80) (h : c.isAlphanum = true) :
    isWordChar c = true := by
  simp [isWordChar, hc, h]

theorem isWordChar_slash : isWordChar '/' = false := by decide

theorem isWordChar_dot : isWordChar '.' = false := by decide

end AmbientDecls.Text
