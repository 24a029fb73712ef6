import AmbientDecls.Build.Tool
import AmbientDecls.Config.Model
import AmbientDecls.Docs.Loading
import AmbientDecls.Emit.File
import AmbientDecls.Files.Output

/-! The steps of a build that run a tool or write a file: exporting the documentation, generating and writing the
declarations, checking and formatting them. -/

namespace AmbientDecls

structure Generated where
  text : String
  classCount : Nat
  moduleCount : Nat
  diagnostics : List Diagnostic
deriving DecidableEq, Repr

namespace Act

/-- Exports the documentation of sources into a new directory. Nothing is done if the directory is
there, and a failed run of the tool takes it away again. -/
def exportDocs (sources : String) (directory : Path) (executable extra : String) (timeout : Int) : Act Bool := do
  if ← contains directory then
    log .info .jsduck ("jsduck skipped; " ++ directory.toText ++ " exists")
    return false
  makeNew directory
  match ShellWords.ofText extra with
  | .error fault => throw (.shellWords fault)
  | .ok words =>
    let args := [executable, sources] ++ words ++
      ["--export=full", "--output", directory.toText]
    let result ← runTool "jsduck" "export" args timeout
    if result.ok then return true
    else
      removeAll directory
      throw (.tool ⟨"jsduck", "export", clip 500 result.output, some result.exitCode, false⟩)

def generate (directory : Path) (config : Config) (docUrl : Option String)
    (generatedAt : Option Timestamp) : Act Generated := do
  let r ← loadRegistry directory config.registry
  let emitter := match docUrl with
    | some url => { config.emitter with docUrl := url }
    | none => config.emitter
  let time := generatedAt.getD (← get).clock
  let (text, state) ← emission (Emitter.file ⟨r, emitter⟩ time) {}
  log .info .emitter
    ("emitted " ++ toString r.modules.length ++ " modules, " ++ toString r.size ++ " classes (" ++
      toString state.diagnostics.length ++ " diagnostics)")
  return ⟨text, r.size, r.modules.length, state.diagnostics⟩

/-- Writes declarations to a file and makes the directories above it; a dry run writes nothing. -/
def writeDeclarations (text : String) (file : Path) (dryRun : Bool) : Act Path := do
  if dryRun then
    log .debug .writer ("dry-run: would write " ++ file.toText)
    return file
  ensure file.parent
  writeText file text
  log .info .writer
    ("wrote " ++ file.toText ++ " (" ++ toString (Utf8.encode text).length ++ " bytes)")
  return file

def referenceName : String := "test.ts"

def referenceText (name : String) : String := "/// <reference path=\"" ++ name ++ "\" />\n"

def writeReference (declaration : Path) : Act Path := do
  let file := declaration.parent.child referenceName
  writeText file (referenceText declaration.name)
  return file

def check (declaration : Path) (command : List String) (timeout : Int) : Act ToolResult := do
  let file ← writeReference declaration
  let result ← runTool "tsc" "check" (command ++ [file.toText]) timeout
  if result.ok then log .info .checker ("tsc accepted " ++ declaration.toText)
  return result

def format (declaration : String) (command : List String) (timeout : Int) : Act ToolResult :=
  runTool "tsfmt" "format" (command ++ [declaration]) timeout

end Act
end AmbientDecls
