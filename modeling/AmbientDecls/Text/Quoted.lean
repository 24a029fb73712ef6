import AmbientDecls.Text.HiddenRanges
import AmbientDecls.Text.Utf8
import AmbientDecls.Text.Word

/-! Text in quotes, as messages show names and values: single quotes unless only double quotes avoid
an escape, and an escape for what has no printed form. -/

namespace AmbientDecls.Text

/-- Whether a character has a printed form; of the spaces only the ASCII one does. -/
def isPrintable (c : Char) : Bool :=
  if c.toNat < 0x80 then 32 ≤ c.toNat && c.toNat < 127 else !inRanges hiddenRanges c.toNat

def hexDigit (n : Nat) : Char :=
  if n < 10 then Char.ofNat (48 + n) else Char.ofNat (87 + n)

def hexPadded : Nat → Nat → List Char
  | 0, _ => []
  | width + 1, n => hexPadded width (n / 16) ++ [hexDigit (n % 16)]

@[simp] theorem length_hexPadded (width n : Nat) : (hexPadded width n).length = width := by
  induction width generalizing n with
  | zero => rfl
  | succ width ih => simp [hexPadded, ih]

def quotedChar (q c : Char) : List Char :=
  if c = q ∨ c = '\\' then ['\\', c]
  else if c = '\n' then ['\\', 'n']
  else if c = '\r' then ['\\', 'r']
  else if c = '\t' then ['\\', 't']
  else if isPrintable c then [c]
  else if c.toNat < 0x100 then '\\' :: 'x' :: hexPadded 2 c.toNat
  else if c.toNat < 0x10000 then '\\' :: 'u' :: hexPadded 4 c.toNat
  else '\\' :: 'U' :: hexPadded 8 c.toNat

/-- The quote that a text is written with: double only if the text holds single ones alone. -/
def quoteFor (s : List Char) : Char :=
  if '\'' ∈ s ∧ '"' ∉ s then '"' else '\''

def quoted (s : List Char) : List Char :=
  let q := quoteFor s
  q :: s.flatMap (quotedChar q) ++ [q]

/-- The written form of a byte between quotes `q`; only ASCII has printed forms. -/
def quotedByte (q : Char) (b : UInt8) : List Char :=
  if b.toNat < 0x80 then quotedChar q (Char.ofNat b.toNat) else '\\' :: 'x' :: hexPadded 2 b.toNat

def quotedBytes (s : Bytes) : List Char :=
  let q := quoteFor (s.map fun b => Char.ofNat b.toNat)
  'b' :: q :: s.flatMap (quotedByte q) ++ [q]

end AmbientDecls.Text
