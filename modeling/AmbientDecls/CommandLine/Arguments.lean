/-! The words of a command line: options with and without values, and operands. Of two values for one option the later
counts, and after two hyphens every word is an operand. -/

namespace AmbientDecls

/-- An option: its long name and, if it has one, the letter that is short for it. -/
structure OptionSpec where
  name : String
  letter : Option Char := none
  takesValue : Bool := false
deriving DecidableEq, Repr

structure Arguments where
  /-- The values of options, the latest first. -/
  values : List (String × String) := []
  flags : List String := []
  operands : List String := []
deriving DecidableEq, Repr

namespace Arguments

def value? (a : Arguments) (name : String) : Option String := a.values.lookup name

def has (a : Arguments) (name : String) : Bool := a.flags.contains name

def withValue (a : Arguments) (name value : String) : Arguments :=
  { a with values := (name, value) :: a.values }

def withFlag (a : Arguments) (name : String) : Arguments := { a with flags := name :: a.flags }

theorem value?_withValue (a : Arguments) (name value : String) :
    (a.withValue name value).value? name = some value := by
  simp [value?, withValue]

inductive Letters
  | read (a : Arguments)
  | wants (a : Arguments) (name : String)

/-- Reads the letters behind a hyphen; what follows a letter that takes a value is its value. -/
def letters? (specs : List OptionSpec) (a : Arguments) : List Char → Option Letters
  | [] => some (.read a)
  | c :: s =>
    match specs.find? fun o => o.letter == some c with
    | none => none
    | some o =>
      if !o.takesValue then letters? specs (a.withFlag o.name) s
      else if s.isEmpty then some (.wants a o.name)
      else some (.read (a.withValue o.name (String.ofList s)))

/-- Reads words. Options may stand behind operands only if `mixed` is set; otherwise the first operand
ends them. -/
def readWords? (specs : List OptionSpec) (mixed : Bool) (a : Arguments) : List String → Option Arguments
  | [] => some a
  | w :: ws =>
    match w.toList with
    | ['-', '-'] => some { a with operands := a.operands ++ ws }
    | '-' :: c :: s =>
      let long := (c :: s).takeWhile (· != '=')
      let attached := ((c :: s).dropWhile (· != '=')).tail
      let hasAttached := (c :: s).contains '='
      match specs.find? fun o => ('-' :: o.name.toList) == long with
      | some o =>
        if o.takesValue then
          if hasAttached then readWords? specs mixed (a.withValue o.name (String.ofList attached)) ws
          else match ws with
            | [] => none
            | v :: ws => readWords? specs mixed (a.withValue o.name v) ws
        else if hasAttached then none
        else readWords? specs mixed (a.withFlag o.name) ws
      | none =>
        if c = '-' then none
        else match letters? specs a (c :: s) with
          | none => none
          | some (.read a) => readWords? specs mixed a ws
          | some (.wants a name) =>
            match ws with
            | [] => none
            | v :: ws => readWords? specs mixed (a.withValue name v) ws
    | _ =>
      if mixed then readWords? specs mixed { a with operands := a.operands ++ [w] } ws
      else some { a with operands := a.operands ++ w :: ws }

def help : OptionSpec := ⟨"help", none, false⟩

def ofWords? (specs : List OptionSpec) (mixed : Bool) (ws : List String) : Option Arguments :=
  readWords? (help :: specs) mixed {} ws

end Arguments
end AmbientDecls
