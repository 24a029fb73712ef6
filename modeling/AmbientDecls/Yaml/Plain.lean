import AmbientDecls.Data.Basic
import AmbientDecls.Json.Reader
import AmbientDecls.Yaml.Moment

/-! The values of plain scalars: words for null and the truth values, integers in four bases and in sixties, decimal
numbers, dates. Everything else is text. -/

namespace AmbientDecls.Yaml

inductive PlainFault
  | moment (fault : MomentFault)
  | noDigits (base : Nat)
  | tooLong (digits : Nat)
  | overflow
deriving DecidableEq, Repr

def PlainFault.message : PlainFault → String
  | moment fault => fault.message
  | noDigits base => "invalid literal for int() with base " ++ toString base ++ ": ''"
  | tooLong digits => Decimal.tooLongMessage digits
  | overflow => "int too large to convert to float"

namespace Plain

def nullWords : List String := ["", "~", "null", "Null", "NULL"]

def trueWords : List String :=
  ["yes", "Yes", "YES", "true", "True", "TRUE", "on", "On", "ON"]

def falseWords : List String :=
  ["no", "No", "NO", "false", "False", "FALSE", "off", "Off", "OFF"]

def infinityWords : List String := [".inf", ".Inf", ".INF"]

def nanWords : List String := [".nan", ".NaN", ".NAN"]

/-- Underscores between digits do not count. -/
def isSpacer (c : Char) : Bool := c == '_'

def isDigitIn (base : Nat) (c : Char) : Bool := (Json.hexValue? c).any (· < base)

def areDigits (base : Nat) (s : List Char) : Bool := s.all fun c => isDigitIn base c || isSpacer c

def natIn (base : Nat) (s : List Char) : Nat :=
  (s.filterMap Json.hexValue?).foldl (fun n d => base * n + d) 0

def isSixtieth : List Char → Bool
  | [c] => c.isDigit
  | [c, d] => '0' ≤ c && c ≤ '5' && d.isDigit
  | _ => false

def based (base : Nat) (s : List Char) : Option (Except PlainFault Nat) :=
  if s.isEmpty || !areDigits base s then none
  else if s.all isSpacer then some (.error (.noDigits base))
  else some (.ok (natIn base s))

/-- Decimal digits and underscores; the digits may not be too many. -/
def decimal (s : List Char) : Except PlainFault Nat :=
  let digits := s.filter Char.isDigit
  if Decimal.digitLimit < digits.length then throw (.tooLong digits.length)
  else return Decimal.natOfDigits digits

def natural? : List Char → Option (Except PlainFault Nat)
  | [] => none
  | ['0'] => some (.ok 0)
  | '0' :: 'b' :: s => based 2 s
  | '0' :: 'x' :: s => based 16 s
  | '0' :: s => if areDigits 8 s then some (.ok (natIn 8 s)) else none
  | c :: s =>
    match Text.pieces (· == ':') (c :: s) with
    | first :: rest =>
      if c.isDigit && areDigits 10 first && rest.all isSixtieth then
        some ((decimal first).map fun n => rest.foldl (fun n p => 60 * n + natIn 10 p) n)
      else none
    | [] => none

def integer? (s : List Char) : Option (Except PlainFault Int) :=
  let (negative, s) := Decimal.takeSign s
  (natural? s).map fun r => r.map fun n => if negative then -(n : Int) else n

/-- A power of ten behind a decimal number: its sign may not be left out. -/
def isExponent : List Char → Bool
  | [] => true
  | e :: sign :: s =>
    (e == 'e' || e == 'E') && (sign == '+' || sign == '-') && !s.isEmpty && s.all Char.isDigit
  | _ => false

def isDigitOrSpacer (c : Char) : Bool := c.isDigit || isSpacer c

/-- Whether a text is written as a decimal number; without digits before the point it has no sign. -/
def isDecimal (signed : Bool) (s : List Char) : Bool :=
  let whole := s.takeWhile isDigitOrSpacer
  match s.dropWhile isDigitOrSpacer with
  | '.' :: s =>
    isExponent (s.dropWhile isDigitOrSpacer) &&
      (if whole.isEmpty then !signed && s.head?.any Char.isDigit else whole.head?.any Char.isDigit)
  | _ => false

def decimalValue (s : List Char) : Float :=
  ((Decimal.Scientific.read? (s.filter fun c => !isSpacer c)).map (·.toFloat)).getD 0

def isLastSixtieth (s : List Char) : Bool :=
  isSixtieth (s.takeWhile (· != '.')) &&
    match s.dropWhile (· != '.') with
    | _ :: s => s.all isDigitOrSpacer
    | [] => false

/-- The sum of parts, the last first, that weigh sixty times more from one to the next. -/
def sixtiesValue : Float → Nat → List (List Char) → Except PlainFault Float
  | sum, _, [] => return sum
  | sum, weight, p :: ps =>
    if (Float.ofNat weight).isInf then throw .overflow
    else sixtiesValue (sum + decimalValue p * Float.ofNat weight) (weight * 60) ps

/-- A decimal number in sixties: the parts weigh more from right to left. -/
def sixties? (s : List Char) : Option (Except PlainFault Float) :=
  match Text.pieces (· == ':') s with
  | [] => none
  | first :: rest =>
    match rest.reverse with
    | [] => none
    | last :: middle =>
      if first.head?.any Char.isDigit && first.all isDigitOrSpacer && middle.all isSixtieth &&
          isLastSixtieth last then
        some (sixtiesValue 0.0 1 (last :: middle ++ [first]))
      else none

def float? (s : List Char) : Option (Except PlainFault Float) :=
  let signed := s.head?.any fun c => c == '-' || c == '+'
  let (negative, t) := Decimal.takeSign s
  let size : Option (Except PlainFault Float) :=
    if isDecimal signed t then some (.ok (decimalValue t))
    else if infinityWords.contains (String.ofList t) then some (.ok (1.0 / 0.0))
    else if nanWords.contains (String.ofList s) then some (.ok (0.0 / 0.0))
    else sixties? t
  size.map fun r => r.map fun x => if negative then -x else x

def value (s : String) : Except PlainFault Data :=
  let cs := s.toList
  if nullWords.contains s then .ok .null
  else if trueWords.contains s then .ok (.bool true)
  else if falseWords.contains s then .ok (.bool false)
  else match float? cs with
    | some r => r.map .float
    | none => match integer? cs with
      | some r => r.map .int
      | none => match Moment.ofText? cs with
        | some m => match m.fault? with
          | some fault => .error (.moment fault)
          | none => .ok (.date s)
        | none => .ok (.text s)

def isText (s : String) : Bool :=
  match value s with
  | .ok (.text _) => s ≠ "=" && s ≠ "<<"
  | _ => false

end Plain
end AmbientDecls.Yaml
