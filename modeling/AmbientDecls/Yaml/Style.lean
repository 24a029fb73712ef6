import AmbientDecls.Text.Quoted
import AmbientDecls.Yaml.Plain
import AmbientDecls.Yaml.Scalar

/-! How a text is written as a scalar: plainly if it is read as the same text again, in single quotes if no character
needs an escape, in double quotes otherwise. Long texts are folded at single spaces. -/

namespace AmbientDecls.Yaml

inductive Style
  | plain
  | single
  | double
deriving DecidableEq, Repr

namespace Style

def width : Nat := 80

def isSpecial (c : Char) : Bool := c != '\n' && !(' ' ≤ c && c ≤ '~')

/-- The characters that may not begin a plain scalar. -/
def openers : List Char :=
  ['#', ',', '[', ']', '\x7b', '\x7d', '&', '*', '!', '|', '>', '\'', '"', '%', '@', '\x60']

/-- Whether the rest of a text makes it something else than a plain scalar; `gap` tells whether a gap
stands before it. -/
def hasMark : Bool → List Char → Bool
  | _, [] => false
  | gap, c :: s =>
    (c == ':' && atGap s) || (c == '#' && gap) || hasMark (isGap c || isBreak c) s

def looksMarked : List Char → Bool
  | [] => false
  | c :: s =>
    ['-', '-', '-'].isPrefixOf (c :: s) || ['.', '.', '.'].isPrefixOf (c :: s) || openers.contains c ||
      ((c == '?' || c == '-') && atGap s) || hasMark true (c :: s)

def breakSpace : List Char → Bool
  | c :: d :: s => (isBreak c && d == ' ') || breakSpace (d :: s)
  | _ => false

def spaceBreak : List Char → Bool
  | c :: d :: s => (c == ' ' && isBreak d) || spaceBreak (d :: s)
  | _ => false

def ofText (s : String) : Style :=
  let cs := s.toList
  if cs.any isSpecial || spaceBreak cs then .double
  else
    let ends := cs.head? == some ' ' || cs.getLast? == some ' '
    if Plain.isText s && !ends && !cs.any isBreak && !looksMarked cs then .plain
    else if breakSpace cs then .double
    else .single

def newLine (margin : Nat) : List Char := '\n' :: List.replicate margin ' '

def runs (s : List Char) : List (List Char) :=
  s.splitBy fun c d => (c == ' ') == (d == ' ') && (c == '\n') == (d == '\n')

def plainRuns (margin : Nat) : Nat → List (List Char) → List Char
  | _, [] => []
  | column, run :: rest =>
    if run = [' '] ∧ width < column then newLine margin ++ plainRuns margin margin rest
    else run ++ plainRuns margin (column + run.length) rest

def doubled (s : List Char) : List Char := s.flatMap fun c => if c = '\'' then [c, c] else [c]

/-- The runs of a scalar in single quotes from a column on, folded inside; a line feed is written as
an empty line. -/
def singleRuns (margin : Nat) : Bool → Nat → List (List Char) → List Char
  | _, _, [] => []
  | inside, column, run :: rest =>
    if inside ∧ run = [' '] ∧ !rest.isEmpty ∧ width < column then
      newLine margin ++ singleRuns margin true margin rest
    else if run.head? = some '\n' then
      run ++ newLine margin ++ singleRuns margin true margin rest
    else
      let written := doubled run
      written ++ singleRuns margin true (column + written.length) rest

/-- A number with at least `width` hexadecimal digits in upper case. -/
def upperHex (width n : Nat) : List Char := (Text.hexPadded width n).map Char.toUpper

def shortEscapes : List (Char × Char) :=
  [('\x00', '0'), ('\x07', 'a'), ('\x08', 'b'), ('\t', 't'), ('\n', 'n'), ('\x0b', 'v'), ('\x0c', 'f'),
    ('\r', 'r'), ('\x1b', 'e'), ('"', '"'), ('\\', '\\'), ('\x85', 'N'), ('\xa0', '_'), ('\u2028', 'L'),
    ('\u2029', 'P')]

/-- The escape of a character in double quotes, if it needs one. -/
def escape? (c : Char) : Option (List Char) :=
  match shortEscapes.lookup c with
  | some e => some ['\\', e]
  | none =>
    if ' ' ≤ c ∧ c ≤ '~' then none
    else if c.toNat < 0x100 then some ('\\' :: 'x' :: upperHex 2 c.toNat)
    else if c.toNat < 0x10000 then some ('\\' :: 'u' :: upperHex 4 c.toNat)
    else some ('\\' :: 'U' :: upperHex 8 c.toNat)

/-- A scalar in double quotes from a column on. Characters without an escape wait, backwards, in
`waiting`. A line is folded behind a backslash, after an escape or before a space, but not at the
ends; a space after the fold has a backslash too. -/
def doubleFrom (margin : Nat) : Bool → List Char → Nat → List Char → List Char
  | _, waiting, _, [] => waiting.reverse
  | inside, waiting, column, c :: s =>
    match escape? c with
    | some e =>
      let column := column + waiting.length + e.length
      let fold := inside && !s.isEmpty && width + 1 < column
      waiting.reverse ++ e ++
        if fold then
          if s.head? = some ' ' then
            '\\' :: newLine margin ++ '\\' :: doubleFrom margin true [] (margin + 1) s
          else '\\' :: newLine margin ++ doubleFrom margin true [] margin s
        else doubleFrom margin true [] column s
    | none =>
      if inside && !s.isEmpty && (c == ' ' || waiting.isEmpty) && width < column + waiting.length then
        let mark := if c = ' ' then ['\\'] else []
        waiting.reverse ++ '\\' :: newLine margin ++ mark ++
          doubleFrom margin true [c] (margin + mark.length) s
      else doubleFrom margin true (c :: waiting) column s

/-- A text as a scalar that begins at a column; further lines have a margin. -/
def write (margin column : Nat) (s : String) : List Char :=
  match ofText s with
  | plain => plainRuns margin column (runs s.toList)
  | single => '\'' :: singleRuns margin false (column + 1) (runs s.toList) ++ ['\'']
  | double => '"' :: doubleFrom margin false [] (column + 1) s.toList ++ ['"']

end Style
end AmbientDecls.Yaml
