/-! The configuration of a run, with its defaults. -/

namespace AmbientDecls

def defaultDocUrl : String := "http://docs.sencha.com/extjs/4.2.5/#!/api/"

structure VersionConfig where
  name : String
  folder : String
  url : String
  jsduckExtra : String := ""
  docUrl : String := defaultDocUrl
deriving DecidableEq, Repr

structure RegistryConfig where
  classPrefix : String := "Ext."
  detachedParents : List String := ["Ext.Error"]
deriving DecidableEq, Repr

structure EmitterConfig where
  docUrl : String := defaultDocUrl
  projectUrl : String := "https://github.com/Dretch/typescript-declarations-for-ext"
  aliasPrefix : String := "__"
deriving DecidableEq, Repr

structure OutputConfig where
  baseDir : String := "build"
deriving DecidableEq, Repr

structure ToolchainConfig where
  jsduck : String := "jsduck"
  tscCommand : List String := ["npx", "tsc", "--noEmit"]
  tsfmtCommand : List String := ["npx", "tsfmt", "-r"]
  formatOutput : Bool := true
  timeout : Int := 600
  downloadTimeout : Float := 120.0

inductive LogLevel
  | debug
  | info
  | warn
  | error
deriving DecidableEq, Repr

namespace LogLevel

def word : LogLevel → String
  | debug => "debug"
  | info => "info"
  | warn => "warn"
  | error => "error"

def ofWord? (s : String) : Option LogLevel :=
  [debug, info, warn, error].find? fun l => l.word = s

@[simp] theorem ofWord?_word (l : LogLevel) : ofWord? l.word = some l := by cases l <;> rfl

def rank : LogLevel → Nat
  | debug => 0
  | info => 1
  | warn => 2
  | error => 3

end LogLevel

inductive LogFormat
  | text
  | json
deriving DecidableEq, Repr

namespace LogFormat

def word : LogFormat → String
  | text => "text"
  | json => "json"

def ofWord? (s : String) : Option LogFormat := [text, json].find? fun f => f.word = s

@[simp] theorem ofWord?_word (f : LogFormat) : ofWord? f.word = some f := by cases f <;> rfl

end LogFormat

def defaultVersions : List VersionConfig :=
  [⟨"ExtJS-4.2.1.883", "ext-4.2.1.883", "http://cdn.sencha.com/ext/gpl/ext-4.2.1-gpl.zip", "",
    defaultDocUrl⟩]

structure Config where
  versions : List VersionConfig := defaultVersions
  registry : RegistryConfig := {}
  emitter : EmitterConfig := {}
  output : OutputConfig := {}
  toolchain : ToolchainConfig := {}
  logLevel : LogLevel := .info
  logFormat : LogFormat := .text

end AmbientDecls
