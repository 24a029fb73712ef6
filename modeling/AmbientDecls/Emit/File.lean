import AmbientDecls.Emit.Members
import AmbientDecls.Emit.Timestamp

/-! Whole declarations: configuration interfaces, classes, modules, and the file that holds them all. -/

namespace AmbientDecls.Emitter

variable (e : Emitter)

/-- The fields of options in documented order; names in `seen` are left out. -/
def configFields : List Member → List String → Emit (List ConfigField)
  | [], _ => return []
  | m :: ms, seen => do
    match m.body with
    | .config type _ isRequired =>
      if seen.contains m.name then configFields ms seen
      else
        let t ← convert e.registry type none
        let more ← configFields ms (m.name :: seen)
        return ⟨m.name, !isRequired, t⟩ :: more
    | _ => configFields ms seen

/-- The configuration interface of a class: the options that its base does not have. -/
def configInterface (c : ClassRef) : Emit ConfigInterface := do
  let base := e.registry.configBase? c
  let inherited := (base.map e.registry.allOptionNames).getD []
  let fields ← e.configFields c.members inherited
  return ⟨!c.moduleName.isEmpty, c.configName, base.map fun b => b.qualifiedConfigName, fields⟩

/-- The members of a class body in source order; a second declaration of a name on one side is reported
and skipped. -/
def body (c : ClassRef) : List Member → List (String × Bool) → Emit (List MemberDecl)
  | [], _ => return []
  | m :: ms, emitted => do
    match ← e.member c m with
    | none => body c ms emitted
    | some d =>
      if emitted.contains d.key then
        Emit.warn .duplicateMember (c.name ++ "." ++ m.name)
          ("skipping duplicate " ++ m.kind.word ++ " declaration")
        body c ms emitted
      else
        let more ← body c ms (d.key :: emitted)
        return d :: more

def warnParent (c : ClassRef) : Emit Unit := do
  if !c.parent.isEmpty && !e.registry.contains c.parent then
    Emit.warn .unresolvedParent c.name
      ("unable to find parent class, so omitting extends clause: " ++ c.parent)

def extends? (c : ClassRef) : Option String :=
  if c.singleton then none else (e.registry.parent? c).map (·.name)

def classDecl (c : ClassRef) : Emit ClassDecl := do
  let config ←
    if e.registry.emitsConstructor c then some <$> e.configInterface c else pure none
  e.warnParent c
  let members ← e.body c c.members []
  return ⟨config, docComment c.shortDoc (e.classUrl c), !c.moduleName.isEmpty, c.baseName,
    e.extends? c, members⟩

def moduleDecl (m : Module) : Emit ModuleDecl := do
  let (classes, scope) ← Emit.within (e.scopeOf m) (m.classes.mapM e.classDecl)
  return ⟨m.name, classes, scope.aliases⟩

/-- The aliases of all modules by ascending name; of two with one name the first counts. -/
def fileAliases (modules : List ModuleDecl) : List (String × String) :=
  let all := modules.flatMap fun m => m.aliases.map fun (target, a) => (a, target)
  let names := (all.map (·.1)).eraseDups.mergeSort fun a b => !(b < a)
  names.filterMap fun a => (all.lookup a).map fun target => (a, target)

def fileText (generatedAt : Timestamp) (modules : List ModuleDecl) : String :=
  let head :=
    ["// Ext type declarations (Typescript 1.4 or newer) generated on " ++ generatedAt.text,
      "// For more information, see: " ++ e.config.projectUrl]
  let aliases := (fileAliases modules).map fun (a, target) => "type " ++ a ++ " = " ++ target ++ ";"
  "\n".intercalate (head ++ aliases ++ modules.map ModuleDecl.render) ++ "\n"

def file (generatedAt : Timestamp) : Emit String := do
  let modules ← e.registry.modules.mapM e.moduleDecl
  return e.fileText generatedAt modules

end AmbientDecls.Emitter
