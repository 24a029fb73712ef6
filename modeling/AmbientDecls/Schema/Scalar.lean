import AmbientDecls.Data.Basic
import AmbientDecls.Decimal.Binary
import AmbientDecls.Schema.NumberText

/-! Which values pass as a text, a truth value, a number or a choice. Numbers and truth values may also
be written as text; a text must be one. -/

namespace AmbientDecls.Schema

open Checked

def text : Data → Checked String
  | .text s => passed s
  | _ => fault .notText

/-- A text of one character at least. -/
def nonEmptyText (d : Data) : Checked String :=
  (text d).andThen fun s => if s.isEmpty then fault .textTooShort else passed s

def boolOfWord? (s : String) : Option Bool :=
  let w := String.ofList (s.toList.map lowerAscii)
  if ["1", "on", "t", "true", "y", "yes"].contains w then some true
  else if ["0", "off", "f", "false", "n", "no"].contains w then some false
  else none

/-- Zero and one are truth values; other numbers are named by whether 64 bits hold them. -/
def boolOfInt (n : Int) : Checked Bool :=
  if n = 0 then passed false
  else if n = 1 then passed true
  else if -0x8000000000000000 ≤ n ∧ n < 0x8000000000000000 then fault .unreadableBool
  else fault .notBool

/-- A float as an integer: it has to be whole, and 64 bits have to hold it. -/
def intOfFloat (x : Float) : Checked Int :=
  match (Decimal.Binary.ofFloat x).toInt? with
  | some n => if n.natAbs < 0x8000000000000000 then passed n else fault .tooLargeInt
  | none => fault (if x.isFinite then .fractionalInt else .notFinite)

def truth : Data → Checked Bool
  | .bool b => passed b
  | .int n => boolOfInt n
  | .float x => match intOfFloat x with
    | passed n => boolOfInt n
    | failed _ => fault .notBool
  | .text s => match boolOfWord? s with
    | some b => passed b
    | none => fault .unreadableBool
  | _ => fault .notBool

def integer : Data → Checked Int
  | .bool b => passed (if b then 1 else 0)
  | .int n => passed n
  | .float x => intOfFloat x
  | .text s => integerOfText s
  | _ => fault .notInt

def floatOfInt (n : Int) : Float :=
  (Decimal.Scientific.mk (n < 0) n.natAbs 0).toFloat

/-- A number; an integer has to lie between the floats. -/
def float : Data → Checked Float
  | .bool b => passed (if b then 1.0 else 0.0)
  | .int n => if (floatOfInt n).isFinite then passed (floatOfInt n) else fault .notFloat
  | .float x => passed x
  | .text s => match floatOfText? s with
    | some x => passed x
    | none => fault .unreadableFloat
  | _ => fault .notFloat

def positiveInt (d : Data) : Checked Int :=
  (integer d).andThen fun n => if 0 < n then passed n else fault .notPositive

/-- A float above zero; what cannot be compared is not. -/
def positiveFloat (d : Data) : Checked Float :=
  (float d).andThen fun x => if 0.0 < x then passed x else fault .notPositive

def choice {α : Type} (ofWord? : String → Option α) : Data → Checked α
  | .text s => match ofWord? s with
    | some a => passed a
    | none => fault .notAChoice
  | _ => fault .notAChoice

/-- A list whose items all pass; `f` is the fault of a value that is no list. -/
def listOf {α : Type} (f : Fault) (item : Data → Checked α) : Data → Checked (List α)
  | .list ds => all (ds.mapIdx fun i d => (item d).under (.index i))
  | _ => fault f

def required {α : Type} (key : String) (read : Data → Checked α) (entries : List (Data × Data)) :
    Checked α :=
  match Data.lookup? key entries with
  | some d => (read d).under (.field key)
  | none => (fault .missing).under (.field key)

def orDefault {α : Type} (key : String) (read : Data → Checked α) (default : α)
    (entries : List (Data × Data)) : Checked α :=
  match Data.lookup? key entries with
  | some d => (read d).under (.field key)
  | none => passed default

def eitherKey {α : Type} (key other : String) (read : Data → Checked α) (default : α)
    (entries : List (Data × Data)) : Checked α :=
  match Data.lookup? key entries with
  | some d => (read d).under (.field key)
  | none => orDefault other read default entries

def entriesOf (d : Data) : Checked (List (Data × Data)) :=
  match d with
  | .map entries => passed entries
  | _ => fault .notAModel

end AmbientDecls.Schema
