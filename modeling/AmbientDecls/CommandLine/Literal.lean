import AmbientDecls.Json.Reader
import AmbientDecls.Text.Pieces

/-! Literal values, as the arguments of a handler are written: numbers, quoted texts, `True`, `False`, `None`, three dots,
and tuples, sets and mappings of values. It is only asked whether a text is such a value. -/

namespace AmbientDecls.Literal

/-- What has to be known of a value: which number may stand in a sum, and what may be a key. -/
inductive Kind
  | real
  | signed
  | imaginary
  | key
  | container
deriving DecidableEq, Repr

namespace Kind

def isKey : Kind → Bool
  | container => false
  | _ => true

def isNumber : Kind → Bool
  | real | imaginary => true
  | _ => false

def tuple (ks : List Kind) : Kind := if ks.all isKey then key else container

end Kind

inductive Place
  | line
  | brackets
deriving DecidableEq

def isLineEnd (c : Char) : Bool := c == '\n' || c == '\r'

/-- The characters of names; a number or a word ends before another character. -/
def isNameChar (c : Char) : Bool := c.isAlphanum || c == '_' || 0x80 ≤ c.toNat

def afterLineEnd? : List Char → Option (List Char)
  | '\r' :: '\n' :: s => some s
  | '\r' :: s => some s
  | '\n' :: s => some s
  | _ => none

def skip (place : Place) : Nat → List Char → List Char
  | 0, s => s
  | fuel + 1, s =>
    match s with
    | ' ' :: t | '\t' :: t | '\x0c' :: t => skip place fuel t
    | '#' :: t => skip place fuel (t.dropWhile fun c => !isLineEnd c)
    | '\\' :: t => match afterLineEnd? t with
      | some t => skip place fuel t
      | none => s
    | _ => match place, afterLineEnd? s with
      | .brackets, some t => skip place fuel t
      | _, _ => s

def digits (isDigit : Char → Bool) : List Char → List Char × List Char
  | [] => ([], [])
  | c :: s =>
    if isDigit c then
      match s with
      | '_' :: d :: t =>
        if isDigit d then
          let (ds, rest) := digits isDigit (d :: t)
          (c :: ds, rest)
        else ([c], s)
      | s =>
        let (ds, rest) := digits isDigit s
        (c :: ds, rest)
    else ([], c :: s)

/-- A value ends here: no name goes on. -/
def ended? (k : Kind) (s : List Char) : Option (Kind × List Char) :=
  match s with
  | c :: _ => if isNameChar c then none else some (k, s)
  | [] => some (k, s)

def based? (isDigit : Char → Bool) (s : List Char) : Option (Kind × List Char) :=
  let s := match s with
    | '_' :: t => t
    | s => s
  match digits isDigit s with
  | ([], _) => none
  | (_, rest) => ended? .real rest

/-- A number in decimal digits. An integer other than zero does not begin with a zero. -/
def decimal? (s : List Char) : Option (Kind × List Char) :=
  let (whole, s) := digits Char.isDigit s
  let (part, hasPoint, s) := match s with
    | '.' :: t =>
      let (part, rest) := digits Char.isDigit t
      (part, true, rest)
    | s => ([], false, s)
  let (hasExponent, s) := match s with
    | c :: t =>
      if c == 'e' || c == 'E' then
        let t := match t with
          | '+' :: u | '-' :: u => u
          | u => u
        match digits Char.isDigit t with
        | ([], _) => (false, s)
        | (_, rest) => (true, rest)
      else (false, s)
    | [] => (false, s)
  if whole.isEmpty && part.isEmpty then none
  else match s with
    | 'j' :: rest | 'J' :: rest => ended? .imaginary rest
    | s =>
      if hasPoint || hasExponent then ended? .real s
      else if whole.length ≤ Decimal.digitLimit ∧ (whole.head? ≠ some '0' ∨ whole.all (· == '0')) then ended? .real s
      else none

def number? : List Char → Option (Kind × List Char)
  | '0' :: c :: s =>
    if c == 'x' || c == 'X' then based? (fun d => (Json.hexValue? d).isSome) s
    else if c == 'o' || c == 'O' then based? (fun d => '0' ≤ d && d ≤ '7') s
    else if c == 'b' || c == 'B' then based? (fun d => d == '0' || d == '1') s
    else decimal? ('0' :: c :: s)
  | s => decimal? s

structure Quoting where
  raw : Bool
  bytes : Bool
  mark : Char
  tripled : Bool

def quotings : List (String × Bool × Bool) :=
  [("", false, false), ("r", true, false), ("u", false, false), ("b", false, true), ("br", true, true),
    ("rb", true, true)]

def opening? (s : List Char) : Option (Quoting × List Char) :=
  let letters := s.takeWhile Char.isAlpha
  match quotings.find? fun q => q.1.toList == letters.map Char.toLower with
  | none => none
  | some (_, raw, bytes) =>
    match s.dropWhile Char.isAlpha with
    | q :: t =>
      if q == '\x27' || q == '"' then
        match t with
        | a :: b :: u => if a == q && b == q then some (⟨raw, bytes, q, true⟩, u) else some (⟨raw, bytes, q, false⟩, t)
        | t => some (⟨raw, bytes, q, false⟩, t)
      else none
    | [] => none

def hexDigits? (n : Nat) (s : List Char) : Option Nat :=
  let t := s.take n
  if t.length = n then
    t.foldl (fun v c => v.bind fun v => (Json.hexValue? c).map (16 * v + ·)) (some 0)
  else none

/-- Whether what follows a backslash is an escape. Characters are not known by name. -/
def isEscape (q : Quoting) : List Char → Bool
  | 'x' :: s => (hexDigits? 2 s).isSome
  | 'u' :: s => q.bytes || (hexDigits? 4 s).isSome
  | 'U' :: s => q.bytes || (hexDigits? 8 s).any (· < 0x110000)
  | 'N' :: _ => q.bytes
  | _ => true

def quotedRest? (q : Quoting) : List Char → Option (List Char)
  | [] => none
  | '\\' :: s =>
    if q.raw || isEscape q s then
      match s with
      | '\r' :: '\n' :: t => quotedRest? q t
      | c :: t => if q.bytes && 0x80 ≤ c.toNat then none else quotedRest? q t
      | [] => none
    else none
  | c :: s =>
    if c == q.mark then
      if q.tripled then
        match s with
        | a :: b :: t => if a == q.mark && b == q.mark then some t else quotedRest? q (a :: b :: t)
        | _ => none
      else some s
    else if isLineEnd c && !q.tripled then none
    else if q.bytes && 0x80 ≤ c.toNat then none
    else quotedRest? q s

/-- Quoted texts side by side count as one; bytes stand beside bytes only. -/
def texts? (place : Place) : Nat → Option Bool → List Char → Option (Kind × List Char)
  | 0, _, _ => none
  | fuel + 1, before, s =>
    match opening? s with
    | none => before.map fun _ => (.key, s)
    | some (q, s) =>
      if before.all (· == q.bytes) then
        match quotedRest? q s with
        | some rest => texts? place fuel (some q.bytes) (skip place rest.length rest)
        | none => none
      else none

def words : List String := ["True", "False", "None"]

def word? (s : List Char) : Option (Kind × List Char) :=
  let name := s.takeWhile isNameChar
  if words.any fun w => w.toList == name then some (.key, s.dropWhile isNameChar) else none

def emptySet? (place : Place) (s : List Char) : Option (Kind × List Char) :=
  if s.takeWhile isNameChar = "set".toList then
    let s := s.drop 3
    match skip place s.length s with
    | '(' :: s =>
      match skip .brackets s.length s with
      | ')' :: s => some (.container, s)
      | _ => none
    | _ => none
  else none

def single? (place : Place) (s : List Char) : Option (Kind × List Char) :=
  match s with
  | '.' :: '.' :: '.' :: rest => some (.key, rest)
  | s => word? s <|> emptySet? place s <|> texts? place (s.length + 1) none s <|> number? s

mutual

/-- A value that may begin with a sign: then it is a number. Its kind comes with whether there is a sign. -/
def signed? : Nat → Place → List Char → Option (Kind × Bool × List Char)
  | 0, _, _ => none
  | fuel + 1, place, s =>
    match s with
    | '+' :: t | '-' :: t =>
      match atom? fuel place (skip place t.length t) with
      | some (k, rest) => if k.isNumber then some (k, true, rest) else none
      | none => none
    | s => (atom? fuel place s).map fun (k, rest) => (k, false, rest)

def atom? : Nat → Place → List Char → Option (Kind × List Char)
  | 0, _, _ => none
  | fuel + 1, place, s =>
    match s with
    | '(' :: s => bracketed? fuel (skip .brackets s.length s)
    | '\x7b' :: s => braced? fuel (skip .brackets s.length s)
    | s => single? place s

/-- A value: a real number may have an imaginary one added to it or taken from it, but only once. -/
def value? : Nat → Place → List Char → Option (Kind × List Char)
  | 0, _, _ => none
  | fuel + 1, place, s =>
    match signed? fuel place s with
    | none => none
    | some (k, sign, rest) =>
      let rest := skip place rest.length rest
      match rest with
      | '+' :: t | '-' :: t =>
        match atom? fuel place (skip place t.length t) with
        | some (.imaginary, rest) =>
          if k = .real ∨ k = .signed then some (.key, skip place rest.length rest) else none
        | _ => none
      | _ => some (if sign then (if k = .real then .signed else .key) else k, rest)

/-- What follows an opening parenthesis: a value, or the items of a tuple. -/
def bracketed? : Nat → List Char → Option (Kind × List Char)
  | 0, _ => none
  | fuel + 1, s =>
    match s with
    | ')' :: rest => some (.key, rest)
    | s =>
      match value? fuel .brackets s with
      | some (k, ')' :: rest) => some (k, rest)
      | some (k, ',' :: rest) => items? fuel ')' [k] (skip .brackets rest.length rest)
      | _ => none

/-- The further items up to a closing bracket; the kinds so far make up a tuple. -/
def items? : Nat → Char → List Kind → List Char → Option (Kind × List Char)
  | 0, _, _, _ => none
  | fuel + 1, close, ks, s =>
    match s with
    | [] => none
    | c :: rest =>
      if c == close then some (Kind.tuple ks, rest)
      else match value? fuel .brackets s with
        | some (k, ',' :: rest) => items? fuel close (k :: ks) (skip .brackets rest.length rest)
        | some (k, d :: rest) => if d == close then some (Kind.tuple (k :: ks), rest) else none
        | _ => none

/-- What follows an opening brace: the items of a set or the entries of a mapping. -/
def braced? : Nat → List Char → Option (Kind × List Char)
  | 0, _ => none
  | fuel + 1, s =>
    match s with
    | '\x7d' :: rest => some (.container, rest)
    | s =>
      match value? fuel .brackets s with
      | some (k, ':' :: _) => if k.isKey then entries? fuel s else none
      | some (k, '\x7d' :: rest) => if k.isKey then some (.container, rest) else none
      | some (k, ',' :: rest) =>
        match items? fuel '\x7d' [k] (skip .brackets rest.length rest) with
        | some (.key, rest) => some (.container, rest)
        | _ => none
      | _ => none

def entries? : Nat → List Char → Option (Kind × List Char)
  | 0, _ => none
  | fuel + 1, s =>
    match s with
    | '\x7d' :: rest => some (.container, rest)
    | s =>
      match value? fuel .brackets s with
      | some (k, ':' :: rest) =>
        if k.isKey then
          match value? fuel .brackets (skip .brackets rest.length rest) with
          | some (_, ',' :: rest) => entries? fuel (skip .brackets rest.length rest)
          | some (_, '\x7d' :: rest) => some (.container, rest)
          | _ => none
        else none
      | _ => none

end

def further? (depth : Nat) : Nat → List Char → Option (List Char)
  | 0, _ => none
  | fuel + 1, s =>
    match s with
    | ',' :: s =>
      let s := skip .line s.length s
      match value? depth .line s with
      | some (_, rest) => further? depth fuel rest
      | none => some s
    | s => some s

/-- Whether a text is a literal value; a tuple may stand without parentheses. -/
def accepts (s : List Char) : Bool :=
  let depth := 4 * s.length + 4
  if s.contains '\x00' then false
  else
    match value? depth .line (skip .brackets s.length s) with
    | none => false
    | some (_, rest) =>
      match further? depth (s.length + 1) rest with
      | some rest => (skip .brackets rest.length rest).isEmpty
      | none => false

end AmbientDecls.Literal
