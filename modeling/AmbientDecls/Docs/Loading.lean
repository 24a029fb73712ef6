import AmbientDecls.Build.World
import AmbientDecls.Data.Shown
import AmbientDecls.Docs.Reading
import AmbientDecls.Docs.Registry
import AmbientDecls.Json.Reader

/-! Loading the records of a directory. The files whose names begin with the prefix are read in ascending order of
their names; the first that is no class record ends the run. -/

namespace AmbientDecls

def shownTag (d : Data) : String := String.ofList ((d.get? "tagname").getD .null).shown

def readRecord (path s : String) : Except Failure ClassRecord :=
  match Json.ofText s with
  | .error .malformed => .error (.record path .invalidJson)
  | .error (.tooLong digits) => .error (.tooLong digits)
  | .error .tooDeep => .error .tooDeep
  | .ok d =>
    if (d.get? "tagname").bind Data.text? = some "class" then
      match ClassRecord.ofData d with
      | .passed c => .ok c
      | .failed is => .error (.record path (.invalidRecord is))
    else .error (.record path (.unknownTag (shownTag d)))

/-- A record without its parent, if its name is among the detached ones. -/
def ClassRecord.detach (detached : List String) (c : ClassRecord) : ClassRecord :=
  if detached.contains c.name && !c.parent.isEmpty then { c with parent := "" } else c

namespace Act

def loadRecord (detached : List String) (p : Path) : Act ClassRecord := do
  let c ← ofExcept (readRecord p.toText (← readText p))
  if detached.contains c.name && !c.parent.isEmpty then
    log .debug .registry ("clearing parent " ++ c.parent ++ " of " ++ c.name)
  return c.detach detached

def loadRecords (directory : Path) (config : RegistryConfig) : Act (List ClassRecord) := do
  let names ← list directory
  let wanted := names.filter fun n => config.classPrefix.toList.isPrefixOf n.toList
  let records ← wanted.mapM fun n => loadRecord config.detachedParents (directory.child n)
  log .info .registry
    ("loaded " ++ toString records.length ++ " class records from " ++ directory.toText)
  return records

/-- The registry of some records; every parent link that is cut is logged. -/
def register (records : List ClassRecord) : Act Registry := do
  let r := Registry.ofRecords records
  r.cuts.forM fun cut => log .warn .registry
    ("Inheritance cycle at " ++ cut.child ++ "; detaching it from " ++ cut.parent)
  return r

def loadRegistry (directory : Path) (config : RegistryConfig) : Act Registry := do
  register (← loadRecords directory config)

/-- Runs an emission; its new diagnostics are logged. -/
def emission {α : Type} (act : Emit α) (state : EmitState) : Act (α × EmitState) := do
  let (a, next) := act state
  (next.diagnostics.drop state.diagnostics.length).forM fun d => log .warn .diagnostics
    (d.kind.word ++ ": " ++ d.message ++ " (" ++ d.subject ++ ")")
  return (a, next)

end Act
end AmbientDecls
