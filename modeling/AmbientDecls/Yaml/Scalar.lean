import AmbientDecls.Json.Reader
import AmbientDecls.Yaml.Cursor

/-! The text of scalars, plain and in quotes. A single line end inside a scalar stands for a space, and of several the
first does not count. -/

namespace AmbientDecls.Yaml

inductive TextFault
  | malformed
  | noCharacter
  /-- The number of an escape does not fit a word. -/
  | overflow
  | tooDeep
deriving DecidableEq, Repr

def folded (b : Char) (more : List Char) : List Char :=
  if b ≠ '\n' then b :: more else if more.isEmpty then [' '] else more

theorem folded_ne_nil (b : Char) (more : List Char) : folded b more ≠ [] := by
  unfold folded
  split
  · simp
  · split <;> simp_all

def isFlowMark (c : Char) : Bool := c == ',' || c == '[' || c == ']' || c == '\x7b' || c == '\x7d'

def endsKey (flow : Bool) (s : List Char) : Bool := atGap s || (flow && s.head?.any isFlowMark)

def plainRun (flow : Bool) : List Char → List Char
  | [] => []
  | c :: s =>
    if isGap c || isBreak c || (c == ':' && endsKey flow s) || (flow && (isFlowMark c || c == '?')) then []
    else c :: plainRun flow s

/-- Further line ends behind the first, and spaces between them; none if a document marker comes
next. -/
def plainBreaks : Nat → List Char → Cursor → Option (List Char) × Cursor
  | 0, done, c => (some done.reverse, c)
  | fuel + 1, done, c =>
    if c.rest.head? = some ' ' then plainBreaks fuel done c.next
    else match c.break? with
      | none => (some done.reverse, c)
      | some (b, c) => if atMarker c.rest then (none, c) else plainBreaks fuel (b :: done) c

/-- What stands between two runs of a plain scalar, if they belong together, whether it ends a line,
and where the next run begins. -/
def plainGap (c : Cursor) : List Char × Bool × Cursor :=
  let blanks := c.rest.takeWhile (· == ' ')
  let c := c.skip blanks.length
  match c.break? with
  | none => (blanks, false, c)
  | some (b, c) =>
    if atMarker c.rest then ([], true, c)
    else match plainBreaks c.rest.length [] c with
      | (none, c) => ([], true, c)
      | (some more, c) => (folded b more, true, c)

/-- A scalar that was read: its text, whether a line ended behind it, and what follows. -/
structure ScalarText where
  text : List Char
  lineEnded : Bool
  cursor : Cursor

/-- Reads the runs of a plain scalar, backwards into `done`; outside brackets, further lines begin at
column `margin` at least. -/
def plainFrom (flow : Bool) (margin : Nat) : Nat → List Char → List Char → Bool → Cursor → ScalarText
  | 0, done, _, lineEnded, c => ⟨done.reverse, lineEnded, c⟩
  | fuel + 1, done, gap, lineEnded, c =>
    let run := if c.rest.head? = some '#' then [] else plainRun flow c.rest
    if run.isEmpty then ⟨done.reverse, lineEnded, c⟩
    else
      let done := run.reverse ++ (gap.reverse ++ done)
      let (gap, lineEnded, c) := plainGap (c.skip run.length)
      if gap.isEmpty || (!flow && c.column < margin) then ⟨done.reverse, lineEnded, c⟩
      else plainFrom flow margin fuel done gap lineEnded c

def plainScalar (flow : Bool) (margin : Nat) (c : Cursor) : ScalarText :=
  plainFrom flow margin c.rest.length [] [] false c

def escapes : List (Char × Char) :=
  [('0', '\x00'), ('a', '\x07'), ('b', '\x08'), ('t', '\t'), ('\t', '\t'), ('n', '\n'), ('v', '\x0b'),
    ('f', '\x0c'), ('r', '\r'), ('e', '\x1b'), (' ', ' '), ('"', '"'), ('\\', '\\'), ('/', '/'),
    ('N', '\x85'), ('_', '\xa0'), ('L', '\u2028'), ('P', '\u2029')]

def escapeWidth? (c : Char) : Option Nat :=
  if c = 'x' then some 2 else if c = 'u' then some 4 else if c = 'U' then some 8 else none

def characterLimit : Nat := 0x110000

/-- The first number that does not fit a signed word. -/
def wordLimit : Nat := 0x80000000

def numberedChar (width : Nat) (s : List Char) : Except TextFault Char :=
  match (s.take width).mapM Json.hexValue? with
  | none => throw .malformed
  | some digits =>
    let n := digits.foldl (fun n d => 16 * n + d) 0
    if digits.length < width then throw .malformed
    else if n < characterLimit then return Char.ofNat n
    else if n < wordLimit then throw .noCharacter
    else throw .overflow

/-- Line ends inside quotes and the gaps around them; a document marker may not follow one. -/
def quotedBreaks : Nat → List Char → Cursor → Except TextFault (List Char × Cursor)
  | 0, done, c => return (done.reverse, c)
  | fuel + 1, done, c =>
    if atMarker c.rest then throw .malformed
    else
      let c := c.skipWhile isGap
      match c.break? with
      | none => return (done.reverse, c)
      | some (b, c) => quotedBreaks fuel (b :: done) c

/-- What follows a backslash: the text it stands for. -/
def escape (c : Cursor) : Except TextFault (List Char × Cursor) :=
  match c.rest with
  | [] => throw .malformed
  | x :: s =>
    match escapes.lookup x, escapeWidth? x with
    | some y, _ => return ([y], c.next)
    | none, some width => do
      let y ← numberedChar width s
      return ([y], c.skip (width + 1))
    | none, none => match c.break? with
      | none => throw .malformed
      | some (_, c) => quotedBreaks (c.rest.length + 1) [] c

/-- Reads up to the closing quote; what was read stands backwards in `done`. -/
def quotedFrom (quote : Char) : Nat → List Char → Cursor → Except TextFault (List Char × Cursor)
  | 0, _, _ => throw .malformed
  | fuel + 1, done, c =>
    match c.rest with
    | [] => throw .malformed
    | x :: s =>
      if x = quote then
        if quote = '\'' ∧ s.head? = some '\'' then quotedFrom quote fuel (x :: done) (c.skip 2)
        else return (done.reverse, c.next)
      else if x = '\\' ∧ quote = '"' then do
        let (text, c) ← escape c.next
        quotedFrom quote fuel (text.reverse ++ done) c
      else if isGap x || isBreak x then
        let blanks := c.rest.takeWhile isGap
        let c := c.skip blanks.length
        match c.break? with
        | none => quotedFrom quote fuel (blanks.reverse ++ done) c
        | some (b, c) => do
          let (more, c) ← quotedBreaks (c.rest.length + 1) [] c
          quotedFrom quote fuel ((folded b more).reverse ++ done) c
      else quotedFrom quote fuel (x :: done) c.next

def quotedScalar (c : Cursor) : Except TextFault ScalarText :=
  match c.rest with
  | [] => throw .malformed
  | quote :: _ => do
    let (text, c) ← quotedFrom quote c.rest.length [] c.next
    return ⟨text, false, c⟩

end AmbientDecls.Yaml
