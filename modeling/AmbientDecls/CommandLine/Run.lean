import AmbientDecls.CommandLine.Command
import AmbientDecls.CommandLine.Report
import AmbientDecls.Config.Document
import AmbientDecls.Config.Resolution

/-! Running a command line. An expected failure is printed and ends the run with exit code 1; any other failure
leaves the run as it is. -/

namespace AmbientDecls

structure Outcome where
  exitCode : Nat
  failure : Option Failure := none
  logged : List String := []
  world : World

namespace Act

def failed (label message : String) : Act Nat := do
  say ("[red]" ++ label ++ ":[/red] " ++ message)
  return 1

def runCheck (file : Path) (config : Config) : Act Nat := do
  match ← attempt (check file config.toolchain.tscCommand config.toolchain.timeout) with
  | .error (.tool f) => failed "Error" f.message
  | .error f => throw f
  | .ok result =>
    if result.ok then
      say ("[green]tsc accepted[/green] " ++ file.toText)
      return 0
    else
      echo result.output
      say ("[red]tsc rejected[/red] " ++ file.toText ++ " (exit " ++ toString result.exitCode ++ ")")
      return 1

/-- The configuration with another prefix for the names of records; an empty one does not count. -/
def withPrefix (config : Config) : Option String → Config
  | some p => if p.isEmpty then config else { config with registry.classPrefix := p }
  | none => config

/-- Where a build writes its declarations; an empty path does not count. -/
def outputOf (config : Config) : Option String → Path
  | some p =>
    if p.isEmpty then Output.declarationPath (Path.ofText config.output.baseDir) "ext"
    else Path.ofText p
  | none => Output.declarationPath (Path.ofText config.output.baseDir) "ext"

def runBuild (c : BuildCommand) (config : Config) : Act Nat := do
  let config := withPrefix config c.classPrefix
  say ("[bold]Generating[/bold] declarations from " ++ c.input ++ "...")
  match ← attempt (generate (Path.ofText c.input) config c.docUrl none) with
  | .error (.record path fault) =>
    failed "Incompatible documentation export" (Failure.record path fault).message
  | .error (.file e) => failed "Error reading input" e.message
  | .error f => throw f
  | .ok g =>
    if c.dryRun then
      code g.text
      showDiagnostics g.diagnostics
      return 0
    else
      let file ← writeDeclarations g.text (outputOf config c.output) false
      showWritten file g
      showDiagnostics g.diagnostics
      if c.check then runCheck file config else return 0

def runCheckCommand (path : String) (config : Config) : Act Nat := do
  let file := Path.ofText path
  if ← isFile file then runCheck file config
  else failed "Error" ("File not found: " ++ file.toText)

/-- Builds versions one after the other; the first failure ends the run. -/
def runBuilds (c : GenerateCommand) (config : Config) (total : Nat) :
    List BuildReport → List VersionConfig → Act Nat
  | done, [] => do
    showReports total done
    return 0
  | done, v :: vs => do
    say ("[bold]Building[/bold] " ++ v.name ++ "...")
    match ← attempt (build v config c.skipFetch c.skipCheck) with
    | .ok report => runBuilds c config total (done ++ [report]) vs
    | .error (.tool f) => failed ("Build failed for " ++ v.name) f.message
    | .error (.record path fault) =>
      failed ("Build failed for " ++ v.name) (Failure.record path fault).message
    | .error (.file e) => failed "Error" e.message
    | .error f => throw f

def runGenerate (c : GenerateCommand) (config : Config) : Act Nat := do
  let versions := config.versions.filter fun v => c.version.all (· = v.name)
  if versions.isEmpty then
    failed "Error" ("No configured version named '" ++ c.version.getD "None" ++ "'")
  else runBuilds c config versions.length [] versions

def runInspect (input name : String) (config : Config) : Act Nat := do
  match ← attempt (loadRegistry (Path.ofText input) config.registry) with
  | .error (.record path fault) => failed "Error" (Failure.record path fault).message
  | .error (.file e) => failed "Error" e.message
  | .error f => throw f
  | .ok r =>
    match r.find? name with
    | none => failed "Error" ("Unknown class '" ++ name ++ "'")
    | some c =>
      showClass r c
      let e : Emitter := ⟨r, config.emitter⟩
      let scope := (r.modules.find? fun m => m.name = c.moduleName).map e.scopeOf
      let (d, state) ← emission (e.classDecl c) { scope := scope }
      code d.render
      showDiagnostics state.diagnostics
      return 0

def runShowConfig (config : Config) : Act Nat := do
  let digits := (Nat.toDigits 10 config.toolchain.timeout.natAbs).length
  if Decimal.digitLimit < digits then throw (.tooLong digits)
  code config.document
  return 0

def runInitConfig (force : Bool) : Act Nat := do
  let file := Path.ofText configName
  if (← contains file) && !force then
    say ("[yellow]" ++ configName ++ " already exists.[/yellow] Use --force to overwrite.")
    return 1
  else
    writeText file configTemplate
    say ("[green]Created[/green] " ++ file.toText)
    return 0

def runCommand (config : Config) : Command → Act Nat
  | .build c => runBuild c config
  | .check path => runCheckCommand path config
  | .generate c => runGenerate c config
  | .inspect input name => runInspect input name config
  | .showConfig => runShowConfig config
  | .initConfig force => runInitConfig force

end Act

def Failure.isContent : Failure → Bool
  | .config _ _ => true
  | .scalar _ => true
  | .noCharacter => true
  | .notUtf8 _ => true
  | _ => false

namespace Outcome

def ofAct (act : Act Nat) (w : World) : Outcome :=
  match act w with
  | (.ok code, w) => { exitCode := code, world := w }
  | (.error f, w) => { exitCode := 1, failure := some f, world := w }

def usageText : String :=
  "Usage: extdts [--config FILE] build|check|generate|inspect|config [OPTIONS] [ARGUMENTS]"

def ofUsage (w : World) : Usage → Outcome
  | .help => ofAct (do Act.echo usageText; return 0) w
  | .wrong => { exitCode := 2, world := w }

def ofCommand (config : Config) (name : CommandName) (ws : List String) (w : World) : Outcome :=
  let outcome := match Command.read name ws with
    | .error u => ofUsage w u
    | .ok c => ofAct (Act.runCommand config c) w
  { outcome with logged := logLines config outcome.world.log }

end Outcome

def run (words : List String) (w : World) : Outcome :=
  match Command.ofWords words with
  | .error u => Outcome.ofUsage w u
  | .ok (given, name, ws) =>
    match Act.loadConfig given w with
    | (.ok config, w) => Outcome.ofCommand config name ws w
    | (.error f, w) =>
      if f.isContent then Outcome.ofAct (Act.failed "Error" f.message) w
      else { exitCode := 1, failure := some f, world := w }

end AmbientDecls
