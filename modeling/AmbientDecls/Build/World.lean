import AmbientDecls.Build.Failure
import AmbientDecls.Config.Expansion
import AmbientDecls.Config.Model
import AmbientDecls.Emit.Timestamp
import AmbientDecls.Types.Diagnostic

/-! What a run acts on: files, external tools, downloads, the log and the printed lines. A failed run keeps what it
did before it failed. -/

namespace AmbientDecls

inductive LogSource
  | registry
  | diagnostics
  | emitter
  | writer
  | fetch
  | jsduck
  | checker
  | process
  | pipeline
deriving DecidableEq, Repr

def LogSource.word : LogSource → String
  | registry => "extdts.registry.registry"
  | diagnostics => "extdts.emitter.diagnostics"
  | emitter => "extdts.emitter.emitter"
  | writer => "extdts.output.writer"
  | fetch => "extdts.toolchain.fetch"
  | jsduck => "extdts.toolchain.jsduck"
  | checker => "extdts.toolchain.checker"
  | process => "extdts.toolchain.process"
  | pipeline => "extdts.toolchain.pipeline"

structure LogRecord where
  level : LogLevel
  source : LogSource
  message : String
deriving DecidableEq, Repr

inductive ToolEnd
  | exited (code : Int) (output : String) (errors : String)
  | missing
  | denied
  | timedOut
deriving DecidableEq, Repr

/-- One run of an external tool: what it writes first, and how it ends. -/
structure ToolRun where
  writes : List (Path × Node) := []
  finish : ToolEnd
deriving DecidableEq

inductive Transfer
  | refused (message : String)
  | rejected (message : String)
  | body (chunks : List Bytes) (fault : Option String)
deriving DecidableEq

structure ToolCall where
  args : List String
  timeout : Int
deriving DecidableEq, Repr

structure Request where
  url : String
  timeout : Float

structure World where
  files : FileTree
  tools : List ToolRun := []
  laterTools : ToolEnd := .missing
  /-- The outcomes of the next downloads, and the message with which further ones are refused. -/
  transfers : List Transfer := []
  laterTransfers : String := "no connection"
  calls : List ToolCall := []
  requests : List Request := []
  log : List LogRecord := []
  printed : List String := []
  clock : Timestamp
  environment : Environment := []
  userHome : Path := ⟨0, []⟩

abbrev Act := ExceptT Failure (StateM World)

namespace Act

section Laws

variable {α β : Type}

@[simp] theorem pure_apply (a : α) (w : World) : (pure a : Act α) w = (.ok a, w) := rfl

@[simp] theorem throw_apply (f : Failure) (w : World) : (throw f : Act α) w = (.error f, w) := rfl

theorem bind_apply (act : Act α) (f : α → Act β) (w : World) :
    (act >>= f) w = match act w with
      | (.ok a, w) => f a w
      | (.error e, w) => (.error e, w) := by
  simp only [bind, ExceptT.bind, ExceptT.mk, StateT.bind, ExceptT.bindCont]
  rcases act w with ⟨a | a, w⟩ <;> rfl

theorem bind_eq_ok {act : Act α} {f : α → Act β} {w w' : World} {b : β}
    (h : (act >>= f) w = (.ok b, w')) : ∃ a v, act w = (.ok a, v) ∧ f a v = (.ok b, w') := by
  rw [bind_apply] at h
  split at h
  · exact ⟨_, _, by assumption, h⟩
  · cases h

theorem throw_bind (e : Failure) (f : α → Act β) : (throw e >>= f) = (throw e : Act β) := rfl

theorem bind_of_ok {act : Act α} {f : α → Act β} {w v : World} {a : α} (h : act w = (.ok a, v)) :
    (act >>= f) w = f a v := by
  rw [bind_apply, h]

end Laws

def log (level : LogLevel) (source : LogSource) (message : String) : Act Unit :=
  modify fun w => { w with log := w.log ++ [⟨level, source, message⟩] }

def look {α : Type} (f : FileTree → α) : Act α := do
  return f (← get).files

def node? (p : Path) : Act (Option Node) := do
  if p.hasNul then return none
  else match (← get).files.status p with
    | .ok n => return n
    | .error c => throw (.file ⟨c, some p.toText, none⟩)

def isFile (p : Path) : Act Bool := do
  match ← node? p with
  | some (.file _) => return true
  | _ => return false

def isDirectory (p : Path) : Act Bool := do
  return (← node? p) == some .directory

def contains (p : Path) : Act Bool := do
  return (← node? p).isSome

def usable (p : Path) : Act Unit := do
  if p.hasNul then throw .nul

def lookAt {α : Type} (p : Path) (f : FileTree → Except FileCause α) : Act α := do
  usable p
  match f (← get).files with
  | .ok a => return a
  | .error c => throw (.file ⟨c, some p.toText, none⟩)

def change (p : Path) (target : Option Path) (f : FileTree → Except FileCause FileTree) : Act Unit := do
  usable p
  match f (← get).files with
  | .ok t => modify fun w => { w with files := t }
  | .error c => throw (.file ⟨c, some p.toText, target.map Path.toText⟩)

def read (p : Path) : Act Bytes := lookAt p fun t => t.read p

def readNamed (name : String) : Act Bytes := do
  usable (Path.ofText name)
  match (← get).files.readNamed name with
  | .ok bytes => return bytes
  | .error c => throw (.file ⟨c, some name, none⟩)

def readText (p : Path) : Act String := do
  match Utf8.decode (← read p) with
  | .ok s => return s
  | .error fault => throw (.notUtf8 fault)

def list (p : Path) : Act (List String) := lookAt p fun t => t.list p

def write (p : Path) (bytes : Bytes) : Act Unit := change p none fun t => t.write p bytes

def writeText (p : Path) (s : String) : Act Unit := write p (Utf8.encode s)

def makeDirectory (p : Path) : Act Unit := change p none fun t => t.makeDirectory p

/-- Takes a file out, if it is there. -/
def discard (p : Path) : Act Unit := change p none fun t =>
  match t.unlink p with
  | .error .notFound => .ok t
  | r => r

def rename (p q : Path) : Act Unit := change p (some q) fun t => t.rename p q

def removeAll (p : Path) : Act Unit :=
  modify fun w => { w with files := w.files.removeAll p }

def ensureOne (p : Path) : Act Unit := do
  match (← get).files.makeDirectory p with
  | .ok t => modify fun w => { w with files := t }
  | .error c => if ← isDirectory p then return else throw (.file ⟨c, some p.toText, none⟩)

/-- Makes a directory and those above it that are missing; one that is there is accepted. -/
def ensureDirectory : Nat → Path → Act Unit
  | 0, p => ensureOne p
  | fuel + 1, p => do
    match (← get).files.makeDirectory p with
    | .error .notFound =>
      ensureDirectory fuel p.parent
      ensureOne p
    | _ => ensureOne p

def ensure (p : Path) : Act Unit := do
  usable p
  ensureDirectory p.parts.length p

def makeNew (p : Path) : Act Unit := do
  usable p
  match (← get).files.makeDirectory p with
  | .error .notFound =>
    ensure p.parent
    makeDirectory p
  | _ => makeDirectory p

def attempt {α : Type} (act : Act α) : Act (Except Failure α) := fun w =>
  let (r, w) := act w
  (.ok r, w)

@[simp] theorem attempt_apply {α : Type} (act : Act α) (w : World) :
    attempt act w = (.ok (act w).1, (act w).2) := rfl

end Act
end AmbientDecls
