import AmbientDecls.Docs.Registry

/-! Which members a class declares: those that are visible and that no ancestor declares already. Classes that
are single objects have static members only and no constructor. -/

namespace AmbientDecls

/-- Whether the public surface of a class shows a member. Protected members are shown where a subclass
can reach them. -/
def ClassRecord.shows (c : ClassRecord) (m : Member) : Bool :=
  if m.isProtected then !c.singleton && !m.isStatic else !m.isPrivate

namespace Registry

def parentEmits (r : Registry) (c : ClassRef) (name : String) (side : Bool) : Bool :=
  (r.ancestors c).any fun a =>
    match r.member? a name (some [.property, .method, .config]) (some side) with
    | some m => a.shows m
    | none => false

/-- Whether a class declares a member itself. Constructors are declared on every level. -/
def shouldEmit (r : Registry) (c : ClassRef) (m : Member) : Bool :=
  if c.singleton && (m.isStatic || m.isConstructor) then false
  else if !c.shows m then false
  else if m.isConstructor then true
  else !r.parentEmits c m.name m.isStatic

def emitsConstructor (r : Registry) (c : ClassRef) : Bool :=
  match r.member? c "constructor" (some [.method]) none with
  | some m => r.shouldEmit c m
  | none => false

def configBase? (r : Registry) (c : ClassRef) : Option ClassRef :=
  if r.parentEmits c "constructor" false then (r.ancestors c).find? r.emitsConstructor else none

def configChain (r : Registry) : Nat → ClassRef → List ClassRef
  | 0, _ => []
  | fuel + 1, c =>
    match r.configBase? c with
    | none => []
    | some b => b :: r.configChain fuel b

def configBases (r : Registry) (c : ClassRef) : List ClassRef := r.configChain (r.size + 1) c

end Registry

namespace ClassRecord

def options (c : ClassRecord) : List Member := c.members.filter fun m => m.kind = .config

def optionNames (c : ClassRecord) : List String := (c.options.map (·.name)).eraseDups

def configName (c : ClassRecord) : String := c.baseName ++ "Config"

/-- The name of the configuration interface of a class, as other modules refer to it. -/
def qualifiedConfigName (c : ClassRecord) : String :=
  if c.moduleName.isEmpty then c.configName else c.moduleName ++ "." ++ c.configName

end ClassRecord

/-- The names of all options of a class: its own and those of its configuration bases. -/
def Registry.allOptionNames (r : Registry) (c : ClassRef) : List String :=
  ((c.toClassRecord :: (r.configBases c).map (·.toClassRecord)).flatMap
    ClassRecord.optionNames).eraseDups

end AmbientDecls
