import AmbientDecls.Text.LowerRanges

/-! Lower case forms of letters of any script. Every other character is its own. -/

namespace AmbientDecls.Text

def CaseRange.contains (r : CaseRange) (n : Nat) : Bool :=
  r.first ≤ n && n ≤ r.last && (n - r.first) % r.step == 0

/-- The lower case form of a character; one capital has a dot above its form. -/
def lower (c : Char) : List Char :=
  if c.toNat < 0x80 then [c.toLower]
  else if c.toNat = 0x130 then ['i', '\u0307']
  else match caseRanges.find? fun r => r.contains c.toNat with
    | some r => [Char.ofNat (c.toNat + r.shift).toNat]
    | none => [c]

def lowered (s : List Char) : List Char := s.flatMap lower

theorem lowered_append (s t : List Char) : lowered (s ++ t) = lowered s ++ lowered t := by
  simp [lowered]

end AmbientDecls.Text
