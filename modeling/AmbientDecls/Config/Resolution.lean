import AmbientDecls.Build.World
import AmbientDecls.Config.Reading
import AmbientDecls.Yaml.Value

/-! Which configuration counts: the first of the candidate files that exists and holds something. Without one the
defaults hold. -/

namespace AmbientDecls

/-- The configuration in a value that was read from a file, with references replaced. -/
def Config.ofFile (path : String) (env : Environment) (d : Data) : Except Failure Config :=
  match env.expand? d with
  | none => .error .tooDeep
  | some (.map entries) =>
    if entries.all fun e => e.1.isText then
      match Config.ofEntries entries with
      | .passed config => .ok config
      | .failed is => .error (.config path (.invalidConfig is))
    else .error .configShape
  | _ => .error .configShape

def readConfigData (path : String) (s : String) : Except Failure Data :=
  match Yaml.read s with
  | .ok d => .ok d
  | .error (.text .malformed) => .error (.config path .invalidYaml)
  | .error (.text .noCharacter) => .error .noCharacter
  | .error (.text .tooDeep) => .error .tooDeep
  | .error (.text .overflow) | .error (.plain .overflow) => .error .overflow
  | .error (.plain fault) => .error (.scalar fault)

def configName : String := "extdts.yaml"

def userConfigName : String := ".extdts/config.yaml"

def configCandidates (given : Option String) (userHome : Path) : List Path :=
  (given.filter fun s => !s.isEmpty).toList.map Path.ofText ++
    [Path.ofText configName, userHome.child userConfigName]

namespace Act

/-- The configuration in a file; none if there is no file or nothing in it. -/
def configAt? (p : Path) : Act (Option Config) := do
  if ← contains p then
    let d ← ofExcept (readConfigData p.toText (← readText p))
    if d.isNull then return none
    else return some (← ofExcept (Config.ofFile p.toText (← get).environment d))
  else return none

def firstConfig : List Path → Act Config
  | [] => return {}
  | p :: ps => do
    match ← configAt? p with
    | some config => return config
    | none => firstConfig ps

/-- The configuration of a run, with the path given for it, if any. -/
def loadConfig (given : Option String) : Act Config := do
  firstConfig (configCandidates given (← get).userHome)

end Act
end AmbientDecls
