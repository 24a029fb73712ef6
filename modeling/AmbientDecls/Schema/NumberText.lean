import AmbientDecls.Decimal.Scientific
import AmbientDecls.Schema.Checked
import AmbientDecls.Text.Blank

/-! Numbers that are written as text. Blanks around a number do not count, a single underscore may stand between two
characters of it, and an integer may have zeros in front and a fraction of zeros behind. -/

namespace AmbientDecls.Schema

open Checked

def lowerAscii (c : Char) : Char :=
  if 65 ≤ c.toNat ∧ c.toNat ≤ 90 then Char.ofNat (c.toNat + 32) else c

/-- The blanks around a number; the four ASCII separators are not among them. -/
def isNumberBlank (c : Char) : Bool := Text.isBlank c && !(28 ≤ c.toNat && c.toNat ≤ 31)

/-- A text without its underscores; `none` if one of them stands at an end or beside another. -/
def dropUnderscores? (s : List Char) : Option (List Char) :=
  let parts := Text.pieces (· == '_') s
  if parts.any List.isEmpty then none else some parts.flatten

/-- A text without single underscores between other characters; any other use of them leaves the text as it is. -/
def dropUnderscores (s : List Char) : List Char := (dropUnderscores? s).getD s

theorem dropUnderscores?_eq_self {s : List Char} (h : '_' ∉ s) (hs : s ≠ []) :
    dropUnderscores? s = some s := by
  have hp : Text.pieces (· == '_') s = [s] :=
    Text.pieces_eq_singleton fun c hc => beq_false_of_ne fun e => h (e ▸ hc)
  simp [dropUnderscores?, hp, hs]

/-- A plus in front does not count, unless a minus follows. -/
def dropPlus? : List Char → Option (List Char)
  | '+' :: '-' :: _ => none
  | '+' :: s => some s
  | s => some s

/-- A number without the zeros in front of it and the underscores among them. One zero stays before a point, and the last
character of a text that holds nothing else; a sign may follow the zeros. -/
def dropZeros? : List Char → Option (List Char)
  | '0' :: s =>
    let zeros := '0' :: s.takeWhile fun c => c == '0' || c == '_'
    match s.dropWhile fun c => c == '0' || c == '_' with
    | [] => some zeros.getLast?.toList
    | '.' :: rest => some (zeros.getLast?.toList ++ '.' :: rest)
    | c :: rest => if c.isDigit || c == '-' then some (c :: rest) else none
  | c :: s => if c.isDigit || c == '-' then some (c :: s) else none
  | [] => none

/-- A number without a point and the zeros behind it, of which there is one at least. -/
def dropFraction (s : List Char) : List Char :=
  match Text.cutAt (· == '.') s with
  | (whole, some (c :: rest)) => if (c :: rest).all (· == '0') then whole else s
  | _ => s

def integerLimit : Nat := 4300

/-- An integer in digits, with a minus or without; only zero itself begins with a zero. -/
def plainInteger (s : List Char) : Checked Int :=
  let (negative, body) := match s with
    | '-' :: t => (true, t)
    | t => (false, t)
  let digits := body.takeWhile Char.isDigit
  match digits with
  | [] => fault .unreadableInt
  | '0' :: _ => if body = ['0'] then passed 0 else fault .unreadableInt
  | _ =>
    if integerLimit < (if negative then 1 else 0) + digits.length then fault .tooLargeInt
    else if digits.length = body.length then
      let n : Int := Decimal.natOfDigits digits
      passed (if negative then -n else n)
    else fault .unreadableInt

def integerOfText (s : String) : Checked Int :=
  match (dropPlus? (Text.trimmed isNumberBlank s.toList)).bind dropZeros? with
  | some t => plainInteger (dropUnderscores (dropFraction t))
  | none => fault .unreadableInt

def floatOfWord? (s : List Char) : Option Float :=
  let (negative, s) := Decimal.takeSign s
  let w := String.ofList (s.map lowerAscii)
  let signed (x : Float) := if negative then -x else x
  if w = "inf" ∨ w = "infinity" then some (signed (1.0 / 0.0))
  else if w = "nan" then some (signed (0.0 / 0.0))
  else none

def plainFloat? (s : List Char) : Option Float :=
  floatOfWord? s <|> (Decimal.Scientific.read? s).map (·.toFloat)

/-- The float that a text stands for: with blanks around it, or with underscores in it, but not both. -/
def floatOfText? (s : String) : Option Float :=
  plainFloat? (Text.trimmed isNumberBlank s.toList) <|> (dropUnderscores? s.toList).bind plainFloat?

end AmbientDecls.Schema
