import AmbientDecls.Text.Pieces

/-! Blank characters and the words between them. Words are never empty and hold no blank. -/

namespace AmbientDecls.Text

/-- Whether a character separates words: the white space of Unicode together with the four ASCII
separators U+001C to U+001F. -/
def isBlank (c : Char) : Bool :=
  let n := c.toNat
  (9 ≤ n && n ≤ 13) || (28 ≤ n && n ≤ 32) || n == 0x85 || n == 0xa0 || n == 0x1680 ||
    (0x2000 ≤ n && n ≤ 0x200a) || n == 0x2028 || n == 0x2029 || n == 0x202f || n == 0x205f ||
    n == 0x3000

/-- The longest runs of characters that are not blank. -/
def words (s : List Char) : List (List Char) :=
  (pieces isBlank s).filter fun w => !w.isEmpty

@[simp] theorem words_nil : words [] = [] := rfl

theorem ne_nil_of_mem_words {s w : List Char} (h : w ∈ words s) : w ≠ [] := by
  have := (List.mem_filter.mp h).2
  simpa using this

def collapse (s : List Char) : List Char :=
  joined [' '] (words s)

end AmbientDecls.Text
