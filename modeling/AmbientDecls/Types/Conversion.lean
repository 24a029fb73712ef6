import AmbientDecls.Types.Builtin
import AmbientDecls.Types.Diagnostic
import AmbientDecls.Types.Naming

/-! From documented types to types in declarations. Alternatives become a union, array markers stay, a
callback becomes a function type, an enumeration the type of its values, and a name that nothing
stands for becomes the unknown type and is reported. -/

namespace AmbientDecls

structure Parameter where
  name : String
  type : String
  optional : Bool := false
  rest : Bool := false
deriving DecidableEq, Repr

namespace Parameter

def render (p : Parameter) : String :=
  if p.rest then "..." ++ p.name ++ ": " ++ p.type
  else p.name ++ (if p.optional then "?" else "") ++ ": " ++ p.type

def renderAll (ps : List Parameter) : String := ", ".intercalate (ps.map render)

end Parameter

def restMarker : String := "..."

/-- The type before the rest marker; `none` if there is no marker. -/
def restElement? (type : String) : Option String :=
  if restMarker.toList.isSuffixOf type.toList then
    some (String.ofList (type.toList.take (type.length - 3)))
  else none

def returnName : String := "return"

def functionText (params : List Parameter) (returns : String) : String :=
  "(" ++ Parameter.renderAll params ++ ") => " ++ returns

/-- One alternative that no descriptors are given for; `expand` converts the type behind an
enumeration. -/
def convertSlot (r : Registry) (expand : String → Emit String) (subject : String) (slot : Slot) :
    Emit String :=
  let arrays := Slot.brackets slot.depth
  if slot.isLiteral then return slot.base ++ arrays
  else match builtin? slot.base with
    | some target => return (← Emit.builtin target) ++ arrays
    | none => match r.find? slot.base with
      | none => do
        Emit.warn .unresolvedType subject
          ("unable to find class, using \"" ++ unknownType ++ "\" instead: \"" ++ slot.base ++ "\"")
        return unknownType
      | some c => match c.backing with
        | none => return c.name ++ arrays
        | some backing => do
          let t ← expand backing
          return (if slot.depth != 0 && needsParens t then "(" ++ t ++ ")" else t) ++ arrays

/-- A type without descriptors. The fuel bounds how many enumerations may stand behind each other. -/
def convertPlain (r : Registry) : Nat → String → Emit String
  | 0, _ => return unknownType
  | fuel + 1, type => do
    let texts ← (Slot.all type).mapM fun slot => convertSlot r (convertPlain r fuel) type slot
    return "|".intercalate texts

def Registry.typeFuel (r : Registry) : Nat := r.size + 1

mutual

/-- Converts a type; with descriptors, `Function` is the callback that they describe. -/
def convert (r : Registry) (type : String) : Option (List Param) → Emit String
  | none => convertPlain r r.typeFuel type
  | some ps => do
    let slots := Slot.all type
    let texts ← slots.mapM fun slot =>
      if slot.base = functionType then do
        let returns ← callbackReturn r ps unknownType
        let params ← callbackParams r type ps [] false
        let f := functionText params returns
        return (if 1 < slots.length ∨ slot.depth ≠ 0 then "(" ++ f ++ ")" else f) ++
          Slot.brackets slot.depth
      else convertSlot r (convertPlain r (r.typeFuel - 1)) type slot
    return "|".intercalate texts
termination_by structural ps => ps

def convertWith (r : Registry) (type : String) : Param → Emit String
  | ⟨_, _, _, properties, _⟩ => convert r type properties
termination_by structural p => p

/-- What a callback returns: the last descriptor of that name counts, and without one it is not
known. -/
def callbackReturn (r : Registry) : List Param → String → Emit String
  | [], found => return found
  | p :: ps, found => do
    if p.name = returnName then
      let t ← convertWith r p.type p
      callbackReturn r ps t
    else callbackReturn r ps found
termination_by structural ps => ps

/-- The parameters of a callback: a name that came before is reported and skipped, all parameters after
an optional one are optional, and a rest parameter takes in everything after it. -/
def callbackParams (r : Registry) (subject : String) :
    List Param → List String → Bool → Emit (List Parameter)
  | [], _, _ => return []
  | p :: ps, seen, optional => do
    if p.name = returnName then callbackParams r subject ps seen optional
    else
      let shown := paramName p.name
      if seen.contains shown then
        Emit.warn .duplicateParam (subject ++ "#" ++ shown) "skipping duplicate callback parameter"
        callbackParams r subject ps seen optional
      else
        match restElement? p.type with
        | some element =>
          if ps.any fun q => q.name != returnName then
            return [⟨shown, unknownType ++ "[]", false, true⟩]
          else
            let t ← convertWith r element p
            return [⟨shown, arrayOf t, false, true⟩]
        | none =>
          let t ← convertWith r p.type p
          let optional := optional || p.optional
          let more ← callbackParams r subject ps (shown :: seen) optional
          return ⟨shown, t, optional, false⟩ :: more
termination_by structural ps => ps

end

end AmbientDecls
