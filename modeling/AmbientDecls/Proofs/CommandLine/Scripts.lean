import AmbientDecls.CommandLine.Run
import AmbientDecls.Proofs.Build.Effects

/-! The scripts of a command line. A run is a script of steps, and around each step some of its failures are caught. A
failure that is caught is printed and ends the run with exit code 1; any other one leaves the run. -/

namespace AmbientDecls

/-- The failures that are caught around a step, each with the label that it is printed under. -/
abbrev Guard := Failure → Option String

namespace Guard

def free : Guard := fun _ => none

def config : Guard := fun f => if f.isContent then some "Error" else none

def input : Guard
  | .record _ _ => some "Incompatible documentation export"
  | .file _ => some "Error reading input"
  | _ => none

def check : Guard
  | .tool _ => some "Error"
  | _ => none

def version (name : String) : Guard
  | .tool _ => some ("Build failed for " ++ name)
  | .record _ _ => some ("Build failed for " ++ name)
  | .file _ => some "Error"
  | _ => none

def registry : Guard
  | .record _ _ => some "Error"
  | .file _ => some "Error"
  | _ => none

/-- What comes of a failure: it is printed where it is caught. -/
def handle (guard : Guard) (f : Failure) : Act Nat :=
  match guard f with
  | some label => Act.failed label f.message
  | none => throw f

end Guard

/-- Steps that end with an exit code; what comes next depends on what a step gave. -/
inductive Script
  | done (code : Nat)
  | step {α : Type} (guard : Guard) (act : Act α) (next : α → Script)

namespace Script

def run : Script → Act Nat
  | done code => pure code
  | step guard act next => do
    match ← Act.attempt act with
    | .ok a => (next a).run
    | .error f => guard.handle f

theorem run_step {α : Type} (guard : Guard) (act : Act α) (next : α → Script) (w : World) :
    (step guard act next).run w = match act w with
      | (.ok a, v) => (next a).run v
      | (.error f, v) => guard.handle f v := by
  rw [run, Act.bind_apply, Act.attempt_apply]
  cases act w with
  | mk result v => cases result <;> rfl

theorem run_free {α : Type} (act : Act α) (next : α → Script) :
    (step .free act next).run = act >>= fun a => (next a).run := by
  funext w
  rw [run_step, Act.bind_apply]
  rfl

/-- A script breaks off at a step that fails; the steps before it succeed. -/
inductive Breaks : Script → World → Guard → Failure → World → Prop
  | here {α : Type} {guard : Guard} {act : Act α} {next : α → Script} {w v : World} {f : Failure}
      (h : act w = (.error f, v)) : Breaks (step guard act next) w guard f v
  | later {α : Type} {guard caught : Guard} {act : Act α} {next : α → Script} {a : α} {w u v : World} {f : Failure}
      (h : act w = (.ok a, u)) (hrest : Breaks (next a) u caught f v) : Breaks (step guard act next) w caught f v

variable {s : Script} {w v : World} {guard : Guard} {f : Failure}

/-- The last step of a run that succeeds. -/
def ending (act : Act Unit) (code : Nat) : Script := step .free act fun _ => done code

theorem run_ending (act : Act Unit) (code : Nat) : (ending act code).run = act >>= fun _ => pure code :=
  run_free _ _

def refusal (label message : String) : Script := step .free (Act.failed label message) done

end Script

/-! The scripts of the commands. -/

namespace Script

open Act

def check (file : Path) (config : Config) : Script :=
  step .check (Act.check file config.toolchain.tscCommand config.toolchain.timeout) fun result =>
    if result.ok then ending (say ("[green]tsc accepted[/green] " ++ file.toText)) 0
    else step .free (echo result.output) fun _ =>
      ending (say ("[red]tsc rejected[/red] " ++ file.toText ++ " (exit " ++ toString result.exitCode ++ ")")) 1

def build (c : BuildCommand) (config : Config) : Script :=
  let config := withPrefix config c.classPrefix
  step .free (say ("[bold]Generating[/bold] declarations from " ++ c.input ++ "...")) fun _ =>
    step .input (generate (Path.ofText c.input) config c.docUrl none) fun g =>
      if c.dryRun then step .free (code g.text) fun _ => ending (showDiagnostics g.diagnostics) 0
      else step .free (writeDeclarations g.text (outputOf config c.output) false) fun file =>
        step .free (showWritten file g) fun _ => step .free (showDiagnostics g.diagnostics) fun _ =>
          if c.check then check file config else done 0

def checkFile (path : String) (config : Config) : Script :=
  let file := Path.ofText path
  step .free (isFile file) fun there =>
    if there then check file config else refusal "Error" ("File not found: " ++ file.toText)

def builds (c : GenerateCommand) (config : Config) (total : Nat) : List BuildReport → List VersionConfig → Script
  | reports, [] => ending (showReports total reports) 0
  | reports, v :: vs => step .free (say ("[bold]Building[/bold] " ++ v.name ++ "...")) fun _ =>
      step (.version v.name) (Act.build v config c.skipFetch c.skipCheck) fun report =>
        builds c config total (reports ++ [report]) vs

def generate (c : GenerateCommand) (config : Config) : Script :=
  let versions := config.versions.filter fun v => c.version.all (· = v.name)
  if versions.isEmpty then refusal "Error" ("No configured version named '" ++ c.version.getD "None" ++ "'")
  else builds c config versions.length [] versions

def inspect (input name : String) (config : Config) : Script :=
  step .registry (loadRegistry (Path.ofText input) config.registry) fun r =>
    match r.find? name with
    | none => refusal "Error" ("Unknown class '" ++ name ++ "'")
    | some c =>
      let e : Emitter := ⟨r, config.emitter⟩
      step .free (showClass r c) fun _ =>
        step .free (emission (e.classDecl c)
            { scope := (r.modules.find? fun m => m.name = c.moduleName).map e.scopeOf }) fun (d, state) =>
          step .free (code d.render) fun _ => ending (showDiagnostics state.diagnostics) 0

def showConfig (config : Config) : Script :=
  let digits := (Nat.toDigits 10 config.toolchain.timeout.natAbs).length
  step .free (if Decimal.digitLimit < digits then throw (.tooLong digits) else pure ()) fun _ =>
    ending (code config.document) 0

def initConfig (force : Bool) : Script :=
  let file := Path.ofText configName
  step .free (contains file) fun there =>
    if there && !force then
      ending (say ("[yellow]" ++ configName ++ " already exists.[/yellow] Use --force to overwrite.")) 1
    else step .free (writeText file configTemplate) fun _ => ending (say ("[green]Created[/green] " ++ file.toText)) 0

def command (config : Config) : Command → Script
  | .build c => build c config
  | .check path => checkFile path config
  | .generate c => generate c config
  | .inspect input name => inspect input name config
  | .showConfig => showConfig config
  | .initConfig force => initConfig force

def usage : Usage → Script
  | .help => ending (echo Outcome.usageText) 0
  | .wrong => done 2

/-- A whole run: the configuration is loaded, then the command does its steps. -/
def ofWords (words : List String) : Script :=
  match Command.ofWords words with
  | .error u => usage u
  | .ok (given, name, ws) => step .config (loadConfig given) fun config =>
      match Command.read name ws with
      | .error u => usage u
      | .ok c => command config c

/-- A step at which failures are caught. -/
theorem run_guarded {α : Type} {guard : Guard} {act : Act α} {next : α → Script}
    {handled : Except Failure α → Act Nat} (hok : ∀ a, (next a).run = handled (.ok a))
    (herror : ∀ f, guard.handle f = handled (.error f)) :
    (step guard act next).run = attempt act >>= handled := by
  rw [run]
  congr 1
  funext result
  cases result with
  | ok a => exact hok a
  | error f => exact herror f

theorem run_check (file : Path) (config : Config) : (check file config).run = runCheck file config := by
  refine run_guarded (fun result => ?_) fun f => by cases f <;> rfl
  simp only [apply_ite Script.run, run_free, run_ending]

theorem run_build (c : BuildCommand) (config : Config) : (build c config).run = runBuild c config := by
  rw [build, run_free, runBuild]
  congr 1
  funext _
  refine run_guarded (fun g => ?_) fun f => by cases f <;> rfl
  simp only [apply_ite Script.run, run_free, run_ending, run_check]
  rfl

end Script

end AmbientDecls
