import AmbientDecls.Decimal.Shortest

/-! Points in time and their written form. -/

namespace AmbientDecls

/-- A date, a time of day, and the minutes east of Greenwich if they are known. -/
structure Timestamp where
  year : Nat
  month : Nat
  day : Nat
  hour : Nat
  minute : Nat
  second : Nat
  microsecond : Nat
  offset : Option Int
deriving DecidableEq, Repr

namespace Timestamp

/-- A number with at least `width` digits. -/
def padded (width n : Nat) : String :=
  String.ofList (Decimal.padLeft width '0' (Nat.toDigits 10 n))

def offsetText (minutes : Int) : String :=
  (if minutes < 0 then "-" else "+") ++ padded 2 (minutes.natAbs / 60) ++ ":" ++
    padded 2 (minutes.natAbs % 60)

/-- Date and time with a `T` between them; a fraction of a second only if there is one. -/
def text (t : Timestamp) : String :=
  padded 4 t.year ++ "-" ++ padded 2 t.month ++ "-" ++ padded 2 t.day ++ "T" ++ padded 2 t.hour ++
    ":" ++ padded 2 t.minute ++ ":" ++ padded 2 t.second ++
    (if t.microsecond = 0 then "" else "." ++ padded 6 t.microsecond) ++
    (t.offset.map offsetText).getD ""

/-- Year, month and day of a day counted from the first of March of year zero. The years of an era of 400
and the months from March on follow fixed patterns of days. -/
def dateOfDay (day : Nat) : Nat × Nat × Nat :=
  let era := day / 146097
  let inEra := day % 146097
  let year := (inEra - inEra / 1460 + inEra / 36524 - inEra / 146096) / 365
  let inYear := inEra - (365 * year + year / 4 - year / 100)
  let month := (5 * inYear + 2) / 153
  let date := inYear - (153 * month + 2) / 5 + 1
  if month < 10 then (400 * era + year, month + 3, date) else (400 * era + year + 1, month - 9, date)

/-- The point in time some seconds and microseconds after the beginning of 1970 in Greenwich. -/
def ofUnix (seconds microseconds : Nat) : Timestamp :=
  let (year, month, day) := dateOfDay (seconds / 86400 + 719468)
  let s := seconds % 86400
  ⟨year, month, day, s / 3600, s / 60 % 60, s % 60, microseconds, some 0⟩

end Timestamp
end AmbientDecls
