import AmbientDecls.Build.Fetch
import AmbientDecls.Build.Steps

/-! A whole build: fetch and unpack, export, generate and write, check and format. Every stage runs only if the
stages before it succeeded. -/

namespace AmbientDecls

structure BuildReport where
  version : String
  declarationPath : String
  classCount : Nat
  diagnostics : List Diagnostic
  checked : Bool := false
  formatted : Bool := false
deriving DecidableEq, Repr

structure BuildPlaces where
  declaration : Path
  directory : Path
  sources : Path
  docs : Path
deriving DecidableEq, Repr

def VersionConfig.places (v : VersionConfig) (output : OutputConfig) : BuildPlaces :=
  let declaration := Output.declarationPath (Path.ofText output.baseDir) v.name
  let directory := declaration.parent
  ⟨declaration, directory, (directory.child v.folder).child "src",
    directory.child (v.folder ++ ".docs")⟩

namespace Act

def fetchVersion (v : VersionConfig) (tools : ToolchainConfig) (places : BuildPlaces) : Act Unit := do
  let archive ← download v.url places.directory false tools.downloadTimeout
  let _ ← unpack archive.toText places.directory v.folder

def gate (v : VersionConfig) (tools : ToolchainConfig) (places : BuildPlaces)
    (report : BuildReport) : Act BuildReport := do
  let result ← check places.declaration tools.tscCommand tools.timeout
  if !result.ok then
    throw (.tool ⟨"tsc", "check", "generation failure on " ++ v.name ++ ": " ++
      clip 500 result.output, some result.exitCode, false⟩)
  let report := { report with checked := true }
  if tools.formatOutput then
    let formatted ← format places.declaration.toText tools.tsfmtCommand tools.timeout
    if !formatted.ok then
      log .warn .pipeline "tsfmt failed; declarations usable but unformatted"
    return { report with formatted := formatted.ok }
  else return report

def build (v : VersionConfig) (config : Config) (skipFetch skipCheck : Bool) : Act BuildReport := do
  let places := v.places config.output
  let tools := config.toolchain
  if !skipFetch then fetchVersion v tools places
  let _ ← exportDocs places.sources.toText places.docs tools.jsduck v.jsduckExtra tools.timeout
  let generated ← generate places.docs config (some v.docUrl) none
  log .info .pipeline
    ("writing " ++ toString generated.classCount ++ " classes for " ++ v.name)
  let _ ← writeDeclarations generated.text places.declaration false
  let report : BuildReport :=
    ⟨v.name, places.declaration.toText, generated.classCount, generated.diagnostics, false, false⟩
  if skipCheck then return report else gate v tools places report

end Act
end AmbientDecls
