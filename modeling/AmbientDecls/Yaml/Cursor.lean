/-! A place in a text with the characters that follow it, and the characters that separate scalars. -/

namespace AmbientDecls.Yaml

def isBreak (c : Char) : Bool := c == '\n' || c == '\x85' || c == '\u2028' || c == '\u2029'

def isGap (c : Char) : Bool := c == ' ' || c == '\t'

def atGap : List Char → Bool
  | [] => true
  | c :: _ => isGap c || isBreak c

def atMarker (s : List Char) : Bool :=
  (['-', '-', '-'].isPrefixOf s || ['.', '.', '.'].isPrefixOf s) && atGap (s.drop 3)

def isAllowed (c : Char) : Bool :=
  let n := c.toNat
  n == 9 || n == 10 || n == 13 || (0x20 ≤ n && n ≤ 0x7e) || n == 0x85 ||
    (0xa0 ≤ n && n ≤ 0xfffd) || 0x10000 ≤ n

def byteOrderMark : Char := '\ufeff'

structure Cursor where
  rest : List Char
  index : Nat := 0
  line : Nat := 0
  column : Nat := 0

namespace Cursor

/-- One character further; a byte order mark takes no column. -/
def next (c : Cursor) : Cursor :=
  match c.rest with
  | [] => c
  | x :: rest =>
    if isBreak x then ⟨rest, c.index + 1, c.line + 1, 0⟩
    else ⟨rest, c.index + 1, c.line, if x = byteOrderMark then c.column else c.column + 1⟩

@[simp] theorem rest_next (c : Cursor) : c.next.rest = c.rest.tail := by
  unfold next
  split
  · simp [*]
  · split <;> simp [*]

def skip : Nat → Cursor → Cursor
  | 0, c => c
  | n + 1, c => skip n c.next

@[simp] theorem rest_skip (n : Nat) (c : Cursor) : (skip n c).rest = c.rest.drop n := by
  induction n generalizing c with
  | zero => rfl
  | succ n ih => rw [skip, ih, rest_next, List.drop_tail]

def skipWhile (p : Char → Bool) (c : Cursor) : Cursor := c.skip (c.rest.takeWhile p).length

/-- A line end at the front: the character it stands for in a scalar, and what follows. -/
def break? (c : Cursor) : Option (Char × Cursor) :=
  match c.rest with
  | [] => none
  | x :: _ => if isBreak x then some (if x = '\x85' then '\n' else x, c.next) else none

end Cursor
end AmbientDecls.Yaml
