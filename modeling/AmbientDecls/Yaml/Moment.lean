import AmbientDecls.Decimal.Scientific

/-! Plain scalars that are written as dates or points in time. What is written as one has to exist. -/

namespace AmbientDecls.Yaml

/-- What makes a written date or time one that does not exist. -/
inductive MomentFault
  | year
  | month
  | day
  | hour
  | minute
  | second
  | offset (minutes : Int)
deriving DecidableEq, Repr

def lengthText (minutes : Int) : String :=
  let days := minutes / 1440
  let seconds := minutes % 1440 * 60
  "datetime.timedelta(days=" ++ toString days ++
    (if seconds = 0 then ")" else ", seconds=" ++ toString seconds ++ ")")

def MomentFault.message : MomentFault → String
  | year => "year 0 is out of range"
  | month => "month must be in 1..12"
  | day => "day is out of range for month"
  | hour => "hour must be in 0..23"
  | minute => "minute must be in 0..59"
  | second => "second must be in 0..59"
  | offset minutes => "offset must be a timedelta strictly between -timedelta(hours=24) and " ++
      "timedelta(hours=24), not " ++ lengthText minutes ++ "."

/-- A date, a time of day if there is one, and the minutes east of Greenwich if they are given. -/
structure Moment where
  year : Nat
  month : Nat
  day : Nat
  time : Option (Nat × Nat × Nat) := none
  offset : Option Int := none
deriving DecidableEq, Repr

namespace Moment

/-- A number of `least` to `most` digits at the front, as many as there are, and what follows. -/
def digits? (least most : Nat) (s : List Char) : Option (Nat × List Char) :=
  let d := (s.takeWhile Char.isDigit).take most
  if d.length < least then none else some (Decimal.natOfDigits d, s.drop d.length)

def past? (c : Char) : List Char → Option (List Char)
  | x :: s => if x = c then some s else none
  | [] => none

def date? (s : List Char) : Option (Moment × List Char) := do
  let (year, s) ← digits? 4 4 s
  let (month, s) ← digits? 1 2 (← past? '-' s)
  let (day, s) ← digits? 1 2 (← past? '-' s)
  return ({ year, month, day }, s)

/-- The fraction of a second, which does not count. -/
def skipFraction : List Char → List Char
  | '.' :: s => s.dropWhile Char.isDigit
  | s => s

/-- A whole text as a distance from Greenwich, with its sign and its hours, or the letter for none. -/
def zone? (s : List Char) : Option Int :=
  let distance (s : List Char) : Option Int := do
    let (hours, s) ← digits? 1 2 s
    match s with
    | [] => return 60 * hours
    | s =>
      let (minutes, s) ← digits? 2 2 (← past? ':' s)
      if s.isEmpty then return 60 * hours + minutes else none
  match s with
  | ['Z'] => some 0
  | '+' :: s => distance s
  | '-' :: s => (distance s).map fun n => -n
  | _ => none

def time? (m : Moment) (s : List Char) : Option Moment := do
  let s ← match s with
    | 't' :: s => some s
    | 'T' :: s => some s
    | ' ' :: s => some (s.dropWhile (· == ' '))
    | _ => none
  let (hour, s) ← digits? 1 2 s
  let (minute, s) ← digits? 2 2 (← past? ':' s)
  let (second, s) ← digits? 2 2 (← past? ':' s)
  let m := { m with time := some (hour, minute, second) }
  match (skipFraction s).dropWhile (· == ' ') with
  | [] => if (skipFraction s).isEmpty then return m else none
  | s =>
    let offset ← zone? s
    return { m with offset := some offset }

/-- A whole text as a moment. A date alone has two digits for its month and for its day. -/
def ofText? (s : List Char) : Option Moment := do
  let (m, rest) ← date? s
  if rest.isEmpty then if s.length = 10 then return m else none
  else time? m rest

def isLeap (year : Nat) : Bool := year % 4 == 0 && (year % 100 != 0 || year % 400 == 0)

def daysIn (year month : Nat) : Nat :=
  if month = 2 then if isLeap year then 29 else 28
  else if [4, 6, 9, 11].contains month then 30 else 31

/-- The first thing wrong with a moment: the distance from Greenwich, the date, the time of day. -/
def fault? (m : Moment) : Option MomentFault :=
  let far := m.offset.filter fun n => 1440 ≤ n.natAbs
  match far with
  | some n => some (.offset n)
  | none =>
    if m.year = 0 then some .year
    else if m.month = 0 ∨ 12 < m.month then some .month
    else if m.day = 0 ∨ daysIn m.year m.month < m.day then some .day
    else match m.time with
      | none => none
      | some (hour, minute, second) =>
        if 23 < hour then some .hour
        else if 59 < minute then some .minute
        else if 59 < second then some .second
        else none

end Moment
end AmbientDecls.Yaml
