import AmbientDecls.Decimal.Binary

/-! The shortest decimal that reads back as a given double, and its written form. Of the decimals with
the fewest digits inside the interval of numbers that round to the double, the nearest is taken. -/

namespace AmbientDecls.Decimal

/-- How many decimal digits a number has; zero has one. -/
def digitCount (n : Nat) : Nat := (Nat.toDigits 10 n).length

def powerOfTen (n : Nat) : Nat := Nat.pow 10 n

structure Ratio where
  num : Nat
  den : Nat

def Ratio.scale (r : Ratio) (e : Int) : Ratio :=
  if 0 ≤ e then ⟨r.num * powerOfTen e.toNat, r.den⟩ else ⟨r.num, r.den * powerOfTen (-e).toNat⟩

def Ratio.ofBinary (m : Nat) (q : Int) : Ratio :=
  if 0 ≤ q then ⟨m * powerOfTwo q.toNat, 1⟩ else ⟨m, powerOfTwo (-q).toNat⟩

def Ratio.le (a b : Ratio) : Bool := a.num * b.den ≤ b.num * a.den

def Ratio.lt (a b : Ratio) : Bool := a.num * b.den < b.num * a.den

def Ratio.magnitude (r : Ratio) : Int :=
  let guess : Int := digitCount r.num - digitCount r.den
  if Ratio.le ⟨1, 1⟩ (r.scale (-guess)) then guess else guess - 1

/-- The numbers that round to one double; the ends belong to it if `closed`. -/
structure Rounding where
  low : Ratio
  value : Ratio
  high : Ratio
  closed : Bool

/-- The interval around `m * 2 ^ q`; below a power of two the gap is half as wide. -/
def Rounding.ofBinary (m : Nat) (q : Int) : Rounding :=
  let below := if m = powerOfTwo 52 ∧ -1074 < q then 1 else 2
  ⟨.ofBinary (4 * m - below) (q - 2), .ofBinary (4 * m) (q - 2), .ofBinary (4 * m + 2) (q - 2),
    m % 2 = 0⟩

def Rounding.admits (i : Rounding) (n : Nat) (e : Int) : Bool :=
  let x := Ratio.scale ⟨n, 1⟩ e
  if i.closed then i.low.le x && x.le i.high else i.low.lt x && x.lt i.high

/-- The better of the two multiples of `10 ^ e` next to the value, if one rounds to the double. -/
def Rounding.onGrid (i : Rounding) (e : Int) : Option Nat :=
  let v := i.value.scale (-e)
  let n := v.num / v.den
  match i.admits n e && n != 0, i.admits (n + 1) e with
  | true, true =>
    let twice := 2 * (v.num % v.den)
    some (if twice < v.den ∨ (twice = v.den ∧ n % 2 = 0) then n else n + 1)
  | true, false => some n
  | false, true => some (n + 1)
  | false, false => none

/-- The first hit on the grids with one digit, two digits and so on: digits and exponent. -/
def Rounding.firstHit (i : Rounding) (top : Int) : Nat → Nat → Nat × Int
  | 0, _ => (0, 0)
  | tries + 1, width =>
    let e := top - width
    match i.onGrid e with
    | some n => (n, e)
    | none => i.firstHit top tries (width + 1)

def shortest (m : Nat) (q : Int) : Nat × Int :=
  let i := Rounding.ofBinary m q
  i.firstHit i.value.magnitude 18 0

structure Layout where
  /-- Positional if the first digit's exponent is at least this … -/
  least : Int
  bound : Int
  exponentWidth : Nat

/-- The layout of the numbers in reports: positional from `10 ^ -4` up to `10 ^ 16`, else with a signed
exponent of two digits or more. -/
def Layout.report : Layout := ⟨-4, 16, 2⟩

def padLeft (width : Nat) (c : Char) (s : List Char) : List Char :=
  List.replicate (width - s.length) c ++ s

/-- The digits `n` times `10 ^ e` in the given layout; an integer keeps one zero after the point. -/
def Layout.write (l : Layout) (n : Nat) (e : Int) : List Char :=
  let raw := Nat.toDigits 10 n
  let digits := (raw.reverse.dropWhile (· == '0')).reverse
  let first : Int := e + (raw.length - 1 : Nat)
  if l.least ≤ first ∧ first < l.bound then
    if first < 0 then '0' :: '.' :: (List.replicate (-first - 1).toNat '0' ++ digits)
    else
      let whole := first.toNat + 1
      let shown := digits.take whole ++ List.replicate (whole - digits.length) '0'
      let rest := digits.drop whole
      shown ++ '.' :: (if rest.isEmpty then ['0'] else rest)
  else
    let lead := digits.take 1 ++ (if digits.length ≤ 1 then [] else '.' :: digits.drop 1)
    let sign := if first < 0 then '-' else '+'
    lead ++ 'e' :: sign :: padLeft l.exponentWidth '0' (Nat.toDigits 10 first.natAbs)

def Binary.write (l : Layout) : Binary → List Char
  | .nan => "nan".toList
  | .infinite negative => (if negative then ['-'] else []) ++ "inf".toList
  | .finite negative m q =>
    (if negative then ['-'] else []) ++
      (if m = 0 then "0.0".toList else l.write (shortest m q).1 (shortest m q).2)

def floatText (x : Float) : String := String.ofList ((Binary.ofFloat x).write .report)

end AmbientDecls.Decimal
