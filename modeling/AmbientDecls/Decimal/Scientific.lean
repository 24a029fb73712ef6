import AmbientDecls.Text.Pieces

/-! Decimal literals: a sign, digits with at most one point, and a power of ten. -/

namespace AmbientDecls.Decimal

def natOfDigits (s : List Char) : Nat :=
  s.foldl (fun n c => 10 * n + (c.toNat - 48)) 0

@[simp] theorem natOfDigits_nil : natOfDigits [] = 0 := rfl

def digitLimit : Nat := 4300

def tooLongMessage (digits : Nat) : String :=
  "Exceeds the limit (" ++ toString digitLimit ++ " digits) for integer string conversion: value has " ++
    toString digits ++ " digits; use sys.set_int_max_str_digits() to increase the limit"

structure Scientific where
  negative : Bool
  digits : Nat
  exponent : Int

/-- The nearest double; numbers out of range become infinite or zero. -/
def Scientific.toFloat (x : Scientific) : Float :=
  let size : Int := x.exponent + (Nat.toDigits 10 x.digits).length
  let magnitude :=
    if x.digits = 0 ∨ size < -400 then 0.0
    else if 400 < size then 1.0 / 0.0
    else Float.ofScientific x.digits (x.exponent < 0) x.exponent.natAbs
  if x.negative then -magnitude else magnitude

def takeSign : List Char → Bool × List Char
  | '-' :: s => (true, s)
  | '+' :: s => (false, s)
  | s => (false, s)

/-- The exponent part: a mark, a sign and at least one digit. -/
def takeExponent : List Char → Option (Int × List Char)
  | c :: s =>
    if c = 'e' ∨ c = 'E' then
      let (negative, s) := takeSign s
      let digits := s.takeWhile Char.isDigit
      if digits.isEmpty then none
      else
        let n : Int := natOfDigits digits
        some (if negative then -n else n, s.dropWhile Char.isDigit)
    else none
  | [] => none

/-- A whole text as a decimal literal: digits before or after the point may be missing, not both. -/
def Scientific.read? (s : List Char) : Option Scientific :=
  let (negative, s) := takeSign s
  let whole := s.takeWhile Char.isDigit
  let s := s.dropWhile Char.isDigit
  let (part, s) := match s with
    | '.' :: t => (t.takeWhile Char.isDigit, t.dropWhile Char.isDigit)
    | s => ([], s)
  if whole.isEmpty && part.isEmpty then none
  else
    let digits := natOfDigits (whole ++ part)
    match s with
    | [] => some ⟨negative, digits, -(part.length : Int)⟩
    | s => match takeExponent s with
      | some (e, []) => some ⟨negative, digits, e - (part.length : Int)⟩
      | _ => none

end AmbientDecls.Decimal
