import AmbientDecls.Data.Basic
import AmbientDecls.Decimal.Scientific

/-! Reading JSON documents. The notation is the strict one, widened by three numbers (`NaN`, `Infinity`,
`-Infinity`) and by surrogate escapes that stand alone, which become U+FFFD. A key that is given
twice keeps its place and takes the last value. -/

namespace AmbientDecls.Json

inductive Fault
  | malformed
  | tooLong (digits : Nat)
  | tooDeep
deriving DecidableEq, Repr

def isSpace (c : Char) : Bool := c = ' ' || c = '\t' || c = '\n' || c = '\r'

def skipSpace (s : List Char) : List Char := s.dropWhile isSpace

def hexValue? (c : Char) : Option Nat :=
  let n := c.toNat
  if 48 ≤ n ∧ n ≤ 57 then some (n - 48)
  else if 97 ≤ n ∧ n ≤ 102 then some (n - 87)
  else if 65 ≤ n ∧ n ≤ 70 then some (n - 55)
  else none

def unit? : List Char → Option (Nat × List Char)
  | a :: b :: c :: d :: s => do
    let a ← hexValue? a
    let b ← hexValue? b
    let c ← hexValue? c
    let d ← hexValue? d
    return (a * 4096 + b * 256 + c * 16 + d, s)
  | _ => none

def isHighUnit (n : Nat) : Bool := 0xd800 ≤ n && n < 0xdc00

def isLowUnit (n : Nat) : Bool := 0xdc00 ≤ n && n < 0xe000

/-- The character of one unit; half of a pair has none of its own. -/
def unitChar (n : Nat) : Char :=
  if isHighUnit n || isLowUnit n then '\ufffd' else Char.ofNat n

def pairChar (high low : Nat) : Char :=
  Char.ofNat (0x10000 + (high - 0xd800) * 0x400 + (low - 0xdc00))

def letterEscape? (c : Char) : Option Char :=
  match c with
  | '"' => some '"'
  | '\\' => some '\\'
  | '/' => some '/'
  | 'b' => some '\x08'
  | 'f' => some '\x0c'
  | 'n' => some '\n'
  | 'r' => some '\r'
  | 't' => some '\t'
  | _ => none

/-- What stands after a backslash: a character and the rest. -/
def escape? : List Char → Option (Char × List Char)
  | 'u' :: s => do
    let (high, s) ← unit? s
    match s with
    | '\\' :: 'u' :: t =>
      if isHighUnit high then
        let (low, t) ← unit? t
        return if isLowUnit low then (pairChar high low, t) else (unitChar high, s)
      else return (unitChar high, s)
    | _ => return (unitChar high, s)
  | c :: s => (letterEscape? c).map (·, s)
  | [] => none

/-- The inside of a string literal up to its closing quote; the characters read so far are kept
backwards in `done`. -/
def stringBody : Nat → List Char → List Char → Option (List Char × List Char)
  | 0, _, _ => none
  | _ + 1, _, [] => none
  | fuel + 1, done, c :: s =>
    if c = '"' then some (done.reverse, s)
    else if c = '\\' then
      match escape? s with
      | some (d, s) => stringBody fuel (d :: done) s
      | none => none
    else if c.toNat < 32 then none
    else stringBody fuel (c :: done) s

def string? (fuel : Nat) (s : List Char) : Option (String × List Char) :=
  (stringBody fuel [] s).map fun (t, s) => (String.ofList t, s)

/-- A number: without fraction and exponent it is an integer. -/
def number (s : List Char) : Except Fault (Data × List Char) :=
  let (negative, t) := match s with
    | '-' :: t => (true, t)
    | _ => (false, s)
  let whole := match t with
    | '0' :: _ => ['0']
    | _ => t.takeWhile Char.isDigit
  if whole.isEmpty then throw .malformed
  else
    let t := t.drop whole.length
    let (part, t) := match t with
      | '.' :: u =>
        let digits := u.takeWhile Char.isDigit
        if digits.isEmpty then ([], t) else (digits, u.dropWhile Char.isDigit)
      | _ => ([], t)
    let (exponent, t) := match Decimal.takeExponent t with
      | some (e, u) => (some e, u)
      | none => (none, t)
    if part.isEmpty && exponent.isNone then
      if Decimal.digitLimit < whole.length then throw (.tooLong whole.length)
      else
        let n : Int := Decimal.natOfDigits whole
        return (.int (if negative then -n else n), t)
    else
      let x : Decimal.Scientific :=
        ⟨negative, Decimal.natOfDigits (whole ++ part), exponent.getD 0 - (part.length : Int)⟩
      return (.float x.toFloat, t)

def after? (word : String) (s : List Char) : Option (List Char) :=
  if word.toList.isPrefixOf s then some (s.drop word.length) else none

def word? (s : List Char) : Option (Data × List Char) :=
  (after? "null" s).map (.null, ·) <|> (after? "true" s).map (.bool true, ·) <|>
    (after? "false" s).map (.bool false, ·) <|>
    (after? "NaN" s).map (.float (0.0 / 0.0), ·) <|>
    (after? "Infinity" s).map (.float (1.0 / 0.0), ·) <|>
    (after? "-Infinity" s).map (.float (-1.0 / 0.0), ·)

def depthLimit : Nat := 990

mutual

/-- A value, after blanks, with `room` for arrays and objects in one another. Every call passes on less fuel, and two
calls read a character at least, so twice the length of the text is enough. -/
def value : Nat → Nat → List Char → Except Fault (Data × List Char)
  | 0, _, _ => throw .malformed
  | fuel + 1, room, s =>
    match skipSpace s with
    | '"' :: s => match string? fuel s with
      | some (t, s) => return (.text t, s)
      | none => throw .malformed
    | '[' :: s => match room, skipSpace s with
      | 0, _ => throw .tooDeep
      | _, ']' :: s => return (.list [], s)
      | room + 1, s => items fuel room [] s
    | '\x7b' :: s => match room, skipSpace s with
      | 0, _ => throw .tooDeep
      | _, '\x7d' :: s => return (.map [], s)
      | room + 1, s => entries fuel room [] s
    | s => match word? s with
      | some r => return r
      | none => number s

def items : Nat → Nat → List Data → List Char → Except Fault (Data × List Char)
  | 0, _, _, _ => throw .malformed
  | fuel + 1, room, done, s => do
    let (d, s) ← value fuel room s
    match skipSpace s with
    | ',' :: s => items fuel room (d :: done) s
    | ']' :: s => return (.list (d :: done).reverse, s)
    | _ => throw .malformed

def entries : Nat → Nat → List (Data × Data) → List Char → Except Fault (Data × List Char)
  | 0, _, _, _ => throw .malformed
  | fuel + 1, room, done, s =>
    match skipSpace s with
    | '"' :: s =>
      match string? fuel s with
      | none => throw .malformed
      | some (key, s) =>
        match skipSpace s with
        | ':' :: s => do
          let (d, s) ← value fuel room s
          match skipSpace s with
          | ',' :: s => entries fuel room (Data.put key d done) s
          | '\x7d' :: s => return (.map (Data.put key d done), s)
          | _ => throw .malformed
        | _ => throw .malformed
    | _ => throw .malformed

end

/-- A whole document: one value between blanks. -/
def read (s : List Char) : Except Fault Data := do
  let (d, rest) ← value (2 * s.length + 2) depthLimit s
  if (skipSpace rest).isEmpty then return d else throw .malformed

def ofText (s : String) : Except Fault Data := read s.toList

end AmbientDecls.Json
