import AmbientDecls.Config.Model
import AmbientDecls.Emit.Declaration
import AmbientDecls.Emit.Rules

/-! The declarations of single members. Where a name is documented in several kinds, a method wins over a property
and a property over an option, whose type it takes in. -/

namespace AmbientDecls

def configParam : String := "config"

/-- What a parameter list is built for: whose list it is, and the type of a configuration parameter. -/
structure ParamList where
  r : Registry
  subject : String
  config : Option String

/-- The parameters of a method in documented order: a name that came before is reported and skipped, all
parameters after an optional one are optional, and a rest parameter takes in everything after it. -/
def ParamList.build (l : ParamList) : List Param → List String → Bool → Emit (List Parameter)
  | [], _, _ => return []
  | p :: ps, seen, optional => do
    let shown := paramName p.name
    if seen.contains shown then
      Emit.warn .duplicateParam (l.subject ++ "#" ++ shown) "skipping duplicate parameter"
      l.build ps seen optional
    else
      let optional := optional || p.optional
      match restElement? p.type with
      | some element =>
        if ps.isEmpty then
          let t ← convert l.r element p.properties
          return [⟨shown, arrayOf t, false, true⟩]
        else return [⟨shown, unknownType ++ "[]", false, true⟩]
      | none =>
        let type ← match if p.name = configParam then l.config else none with
          | some t => pure t
          | none => convert l.r p.type p.properties
        let more ← l.build ps (shown :: seen) optional
        return ⟨shown, type, optional, false⟩ :: more

structure Emitter where
  registry : Registry
  config : EmitterConfig := {}

namespace Emitter

variable (e : Emitter)

def classUrl (c : ClassRef) : String := e.config.docUrl ++ c.name

def memberUrl (c : ClassRef) (m : Member) : String :=
  e.config.docUrl ++ c.name ++ "-" ++ m.kind.word ++ "-" ++ m.name

def scopeOf (m : Module) : Scope := .ofModule m e.config.aliasPrefix

def parameters (c : ClassRef) (m : Member) (params : List Param) : Emit (List Parameter) :=
  ParamList.build ⟨e.registry, c.name ++ "." ++ m.name,
    if m.isConstructor then some c.configName else none⟩ params [] false

def warnCollision (c : ClassRef) (m : Member) (what : String) : Emit Unit :=
  Emit.warn .memberCollision (c.name ++ "." ++ m.name)
    ("omitting " ++ what ++ " that also exists as a method")

def declare (c : ClassRef) (m : Member) (s : Signature) : MemberDecl :=
  ⟨m.name, c.singleton || m.isStatic, docComment m.shortDoc (e.memberUrl c m), s⟩

def has (c : ClassRef) (m : Member) (kind : MemberKind) : Bool :=
  (e.registry.member? c m.name (some [kind]) none).isSome

def optionType? (m : Member) : Option String :=
  match m.body with
  | .config type _ _ => some type
  | _ => none

/-- The type text of a property; an option of its name adds its own alternatives in front. -/
def propertyType (c : ClassRef) (m : Member) (type : String) : String :=
  match (e.registry.member? c m.name (some [.config]) none).bind optionType? with
  | some t => if c.singleton then type else t ++ "|" ++ type
  | none => type

/-- The signature of a member, or none if the member gives way to another of its name. -/
def signature? (c : ClassRef) (m : Member) : Emit (Option Signature) :=
  match m.body with
  | .property type optional => do
    if e.has c m .method then
      warnCollision c m "property"
      return none
    let t ← convert e.registry (e.propertyType c m type) none
    return some (.property optional t)
  | .config type _ _ => do
    if e.has c m .method then
      warnCollision c m "config"
      return none
    if e.has c m .property || c.singleton then return none
    let t ← convert e.registry type none
    return some (.property false t)
  | .method params returns => do
    let ps ← e.parameters c m params
    if m.isConstructor then return some (.method ps none)
    match returns with
    | none => return some (.method ps (some "void"))
    | some p =>
      let t ← convert e.registry p.type p.properties
      return some (.method ps (some t))

/-- The declaration of a member, or none if the class does not declare it. -/
def member (c : ClassRef) (m : Member) : Emit (Option MemberDecl) := do
  if e.registry.shouldEmit c m then
    let s ← e.signature? c m
    return s.map (e.declare c m)
  else return none

end Emitter
end AmbientDecls
