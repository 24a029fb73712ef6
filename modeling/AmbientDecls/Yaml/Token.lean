import AmbientDecls.Text.Lines
import AmbientDecls.Yaml.Scalar

/-! Documents as tokens. Columns open and close blocks; a scalar or a bracket may turn out to be a key only when a
colon follows on its line, and the tokens that make it one are then put in front of it. Where the text cannot be read on,
the tokens end in a fault. -/

namespace AmbientDecls.Yaml

inductive Token
  | documentStart
  | documentEnd
  | sequenceStart
  | mappingStart
  | blockEnd
  | openBracket
  | closeBracket
  | openBrace
  | closeBrace
  | item
  | comma
  | key
  | value
  | scalar (text : String) (plain : Bool)
  | fault (f : TextFault)
deriving DecidableEq, Repr

structure PossibleKey where
  place : Nat
  required : Bool
  cursor : Cursor

structure Reading where
  cursor : Cursor
  tokens : Array Token := #[]
  depth : Nat := 0
  columns : List Nat := []
  keysAllowed : Bool := true
  possible : List (Nat × PossibleKey) := []

def longestKey : Nat := 1024

namespace Reading

def push (r : Reading) (t : Token) : Reading := { r with tokens := r.tokens.push t }

def insert (r : Reading) (place : Nat) (t : Token) : Reading :=
  { r with tokens := r.tokens.extract 0 place ++ #[t] ++ r.tokens.extract place r.tokens.size }

def mark (r : Reading) (n : Nat) (t : Token) : Reading :=
  { r.push t with cursor := r.cursor.skip n }

def skipSpace : Nat → Reading → Reading
  | 0, r => r
  | fuel + 1, r =>
    let c := r.cursor.skipWhile (· == ' ')
    let c := if c.rest.head? = some '#' then c.skipWhile (fun x => !isBreak x) else c
    match c.break? with
    | none => { r with cursor := c }
    | some (_, c) =>
      skipSpace fuel { r with cursor := c, keysAllowed := r.keysAllowed || r.depth = 0 }

def isStale (r : Reading) (k : PossibleKey) : Bool :=
  k.cursor.line ≠ r.cursor.line || k.cursor.index + longestKey < r.cursor.index

/-- Drops the possible keys that cannot become keys any more; a required one may not be dropped. -/
def dropStale (r : Reading) : Except TextFault Reading := do
  if r.possible.any fun p => r.isStale p.2 && p.2.required then throw .malformed
  return { r with possible := r.possible.filter fun p => !r.isStale p.2 }

/-- The tokens that stand for certain: those before the first possible key. -/
def certain (r : Reading) : Array Token :=
  r.tokens.extract 0 (r.possible.foldl (fun n p => if r.isStale p.2 then n else min n p.2.place)
    r.tokens.size)

/-- Forgets the possible key at this depth, which may not be a required one. -/
def forgetKey (r : Reading) : Except TextFault Reading := do
  if (r.possible.lookup r.depth).any (·.required) then throw .malformed
  return { r with possible := r.possible.filter fun p => p.1 ≠ r.depth }

def noteKey (r : Reading) : Except TextFault Reading := do
  if r.keysAllowed then
    let required := r.depth == 0 && r.columns.head? == some r.cursor.column
    let r ← r.forgetKey
    return { r with possible := (r.depth, ⟨r.tokens.size, required, r.cursor⟩) :: r.possible }
  else return r

def closeBlocks (r : Reading) (closes : Nat → Bool) : Reading :=
  if r.depth = 0 then
    { r with
      tokens := r.tokens ++ ((r.columns.takeWhile closes).map fun _ => Token.blockEnd).toArray
      columns := r.columns.dropWhile closes }
  else r

/-- Opens a block at a column to the right of the open ones; its token stands at `place`. -/
def openBlock (r : Reading) (column place : Nat) (t : Token) : Reading :=
  if r.columns.head?.all (· < column) then
    { r.insert place t with columns := column :: r.columns }
  else r

def marker (r : Reading) (t : Token) : Except TextFault Reading := do
  let r ← (r.closeBlocks fun _ => true).forgetKey
  return { r.mark 3 t with keysAllowed := false }

def opening (r : Reading) (t : Token) : Except TextFault Reading := do
  let r ← r.noteKey
  return { r.mark 1 t with depth := r.depth + 1, keysAllowed := true }

def closing (r : Reading) (t : Token) : Except TextFault Reading := do
  if r.depth = 0 then throw .malformed
  let r ← r.forgetKey
  return { r.mark 1 t with depth := r.depth - 1, keysAllowed := false }

def comma (r : Reading) : Except TextFault Reading := do
  let r ← r.forgetKey
  return { r.mark 1 .comma with keysAllowed := true }

/-- A block token for a mark that opens a block of its own, if it stands outside brackets. -/
def opened (r : Reading) (t : Token) : Except TextFault Reading := do
  if r.depth ≠ 0 then return r
  else if r.keysAllowed then return r.openBlock r.cursor.column r.tokens.size t
  else throw .malformed

def item (r : Reading) : Except TextFault Reading := do
  let r ← (← r.opened .sequenceStart).forgetKey
  return { r.mark 1 .item with keysAllowed := true }

def key (r : Reading) : Except TextFault Reading := do
  let r ← (← r.opened .mappingStart).forgetKey
  return { r.mark 1 .key with keysAllowed := r.depth = 0 }

/-- A colon: the possible key before it becomes a key. -/
def value (r : Reading) : Except TextFault Reading := do
  match r.possible.lookup r.depth with
  | some k =>
    let r := { r with possible := r.possible.filter fun p => p.1 ≠ r.depth }
    let r := r.insert k.place .key
    let r := if r.depth = 0 then r.openBlock k.cursor.column k.place .mappingStart else r
    return { r.mark 1 .value with keysAllowed := false }
  | none =>
    let r ← r.opened .mappingStart
    return { r.mark 1 .value with keysAllowed := r.depth = 0 }

def scalar (r : Reading) (plain : Bool) (read : Cursor → Except TextFault ScalarText) :
    Except TextFault Reading := do
  let r ← r.noteKey
  let s ← read r.cursor
  return { r.push (.scalar (String.ofList s.text) plain) with
    cursor := s.cursor, keysAllowed := s.lineEnded }

/-- The column at which further lines of a plain scalar begin at least. -/
def plainMargin (r : Reading) : Nat :=
  match r.columns with
  | [] => 0
  | column :: _ => column + 1

def indicators : List Char :=
  ['-', '?', ':', ',', '[', ']', '\x7b', '\x7d', '#', '&', '*', '!', '|', '>', '\'', '"', '%', '@',
    '\x60']

/-- Whether a plain scalar begins here: some indicators may, if no gap follows. -/
def startsPlain (r : Reading) : Bool :=
  match r.cursor.rest with
  | [] => false
  | c :: s =>
    (!indicators.contains c && !isGap c && !isBreak c) ||
      (!atGap s && (c == '-' || (r.depth == 0 && (c == '?' || c == ':'))))

def token (r : Reading) (c : Char) (s : List Char) : Except TextFault Reading :=
  let gap := r.depth != 0 || atGap s
  if r.cursor.column = 0 ∧ c = '-' ∧ atMarker (c :: s) then r.marker .documentStart
  else if r.cursor.column = 0 ∧ c = '.' ∧ atMarker (c :: s) then r.marker .documentEnd
  else if c = '[' then r.opening .openBracket
  else if c = '\x7b' then r.opening .openBrace
  else if c = ']' then r.closing .closeBracket
  else if c = '\x7d' then r.closing .closeBrace
  else if c = ',' then r.comma
  else if c = '-' ∧ atGap s then r.item
  else if c = '?' ∧ gap then r.key
  else if c = ':' ∧ gap then r.value
  else if c = '\'' ∨ c = '"' then r.scalar false quotedScalar
  else if r.startsPlain then
    r.scalar true fun c => return plainScalar (r.depth != 0) r.plainMargin c
  else throw .malformed

/-- One token further, or to the end of the text; whether the end is reached is told. -/
def next (r : Reading) : Except TextFault (Bool × Reading) := do
  let r ← (r.skipSpace (r.cursor.rest.length + 1)).dropStale
  let column := r.cursor.column
  let r := r.closeBlocks (column < ·)
  match r.cursor.rest with
  | [] => return (true, ← (r.closeBlocks fun _ => true).forgetKey)
  | c :: s => return (false, ← r.token c s)

/-- The tokens up to the end of the text, or to a fault: of those before it only the certain ones stand. Every round reads
a character at least. -/
def all : Nat → Reading → Array Token
  | 0, r => r.tokens
  | fuel + 1, r =>
    match r.next with
    | .ok (true, r) => r.tokens
    | .ok (false, r) => all fuel r
    | .error f => r.certain.push (.fault f)

end Reading

def openers : List Token := [.sequenceStart, .mappingStart, .openBracket, .openBrace]

def closers : List Token := [.blockEnd, .closeBracket, .closeBrace]

def depthLimit : Nat := 490

def shallow : Nat → List Token → List Token
  | _, [] => []
  | depth, t :: ts =>
    if openers.contains t then
      if depth < depthLimit then t :: shallow (depth + 1) ts else [.fault .tooDeep]
    else t :: shallow (if closers.contains t then depth - 1 else depth) ts

def tokens (s : List Char) : List Token :=
  let s := Text.lineFeeds s
  if s.all isAllowed then
    let c : Cursor := { rest := s }
    let c := if s.head? = some byteOrderMark then c.next else c
    shallow 0 (Reading.all (s.length + 1) { cursor := c }).toList
  else [.fault .malformed]

end AmbientDecls.Yaml
