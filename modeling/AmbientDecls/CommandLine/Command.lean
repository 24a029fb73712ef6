import AmbientDecls.CommandLine.Arguments

/-! The commands and how they are written. The command is known before its own arguments are read, since the
configuration is loaded in between. -/

namespace AmbientDecls

structure BuildCommand where
  input : String
  output : Option String := none
  docUrl : Option String := none
  classPrefix : Option String := none
  dryRun : Bool := false
  check : Bool := false
deriving DecidableEq, Repr

structure GenerateCommand where
  version : Option String := none
  skipFetch : Bool := false
  skipCheck : Bool := false
deriving DecidableEq, Repr

inductive Command
  | build (c : BuildCommand)
  | check (path : String)
  | generate (c : GenerateCommand)
  | inspect (input : String) (name : String)
  | showConfig
  | initConfig (force : Bool)
deriving DecidableEq, Repr

inductive Usage
  | wrong
  | help
deriving DecidableEq, Repr

inductive CommandName
  | build
  | check
  | generate
  | inspect
  | config
deriving DecidableEq, Repr

namespace CommandName

def word : CommandName → String
  | build => "build"
  | check => "check"
  | generate => "generate"
  | inspect => "inspect"
  | config => "config"

def ofWord? (s : String) : Option CommandName :=
  [build, check, generate, inspect, config].find? fun n => n.word = s

@[simp] theorem ofWord?_word (n : CommandName) : ofWord? n.word = some n := by cases n <;> rfl

end CommandName

namespace Command

/-- The arguments in some words, unless they ask for help. -/
def arguments (specs : List OptionSpec) (mixed : Bool) (ws : List String) : Except Usage Arguments :=
  match Arguments.ofWords? specs mixed ws with
  | none => .error .wrong
  | some a => if a.has Arguments.help.name then .error .help else .ok a

/-- The words before the command, with the path of a configuration, and those behind it. -/
def ofWords (ws : List String) : Except Usage (Option String × CommandName × List String) := do
  let a ← arguments [⟨"config", some 'c', true⟩] false ws
  match a.operands with
  | [] => throw .wrong
  | w :: rest => match CommandName.ofWord? w with
    | none => throw .wrong
    | some n => return (a.value? "config", n, rest)

def readBuild (ws : List String) : Except Usage Command := do
  let a ← arguments [⟨"output", some 'o', true⟩, ⟨"doc-url", none, true⟩, ⟨"prefix", none, true⟩,
    ⟨"dry-run", none, false⟩, ⟨"check", none, false⟩] true ws
  match a.operands with
  | [input] => return .build ⟨input, a.value? "output", a.value? "doc-url", a.value? "prefix",
      a.has "dry-run", a.has "check"⟩
  | _ => throw .wrong

def readCheck (ws : List String) : Except Usage Command := do
  let a ← arguments [] true ws
  match a.operands with
  | [path] => return .check path
  | _ => throw .wrong

def readGenerate (ws : List String) : Except Usage Command := do
  let a ← arguments [⟨"version", some 'v', true⟩, ⟨"skip-fetch", none, false⟩,
    ⟨"skip-check", none, false⟩] true ws
  match a.operands with
  | [] => return .generate ⟨a.value? "version", a.has "skip-fetch", a.has "skip-check"⟩
  | _ => throw .wrong

def readInspect (ws : List String) : Except Usage Command := do
  let a ← arguments [] true ws
  match a.operands with
  | [input, name] => return .inspect input name
  | _ => throw .wrong

def readShow (ws : List String) : Except Usage Command := do
  let a ← arguments [] true ws
  if a.operands.isEmpty then return .showConfig else throw .wrong

def readInit (ws : List String) : Except Usage Command := do
  let a ← arguments [⟨"force", none, false⟩] true ws
  if a.operands.isEmpty then return .initConfig (a.has "force") else throw .wrong

def readConfig (ws : List String) : Except Usage Command := do
  let a ← arguments [] false ws
  match a.operands with
  | "show" :: rest => readShow rest
  | "init" :: rest => readInit rest
  | _ => throw .wrong

def read : CommandName → List String → Except Usage Command
  | .build => readBuild
  | .check => readCheck
  | .generate => readGenerate
  | .inspect => readInspect
  | .config => readConfig

end Command
end AmbientDecls
