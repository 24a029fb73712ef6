import AmbientDecls.CommandLine.Run

/-! The program. It reads the files below the working directory, makes a run on them, and writes back what the run
changed. External tools and the network are out of its reach. -/

namespace AmbientDecls.Program

def pathOf (place : Place) : String := "/" ++ "/".intercalate place

partial def nodesOf (place : Place) (entries : Array IO.FS.DirEntry) : IO (List (Place × Node)) := do
  let mut nodes := []
  for e in entries do
    let below := place ++ [e.fileName]
    if ← e.path.isDir then
      nodes := nodes ++ (below, .directory) :: (← nodesOf below (← e.path.readDir))
    else
      nodes := nodes ++ [(below, .file (← IO.FS.readBinFile e.path).toList)]
  return nodes

def above (place : Place) : List (Place × Node) :=
  (List.range place.length).map fun i => (place.take (i + 1), .directory)

/-- The configuration file of the user, if there is one. -/
def userConfig (home : Path) : IO (List (Place × Node)) := do
  let file := home.child userConfigName
  try
    let bytes ← IO.FS.readBinFile file.toText
    return above file.parent.parts ++ [(file.parts, .file bytes.toList)]
  catch _ => return []

def namesIn : List Char → List String
  | [] => []
  | c :: s => match Environment.reference? (c :: s) with
    | some (name, _) => String.ofList name :: namesIn s
    | none => namesIn s

def configTexts (words : List String) (userHome : Path) (files : FileTree) : List String :=
  match Command.ofWords words with
  | .error _ => []
  | .ok (given, _) => (configCandidates given userHome).filterMap fun p =>
    match files.read p with
    | .ok bytes => (Utf8.decode bytes).toOption
    | .error _ => none

def environmentOf (texts : List String) : IO Environment := do
  let mut found := []
  for name in texts.flatMap fun s => namesIn s.toList do
    match ← IO.getEnv name with
    | some value => found := (name, value) :: found
    | none => pure ()
  return found

def clock : IO Timestamp := do
  let (_, file) ← IO.FS.createTempFile
  let time := (← file.metadata).modified
  IO.FS.removeFile file
  return Timestamp.ofUnix time.sec.toNat (time.nsec.toNat / 1000)

def writeBack (before after : FileTree) : IO Unit := do
  for (place, node) in before.nodes do
    if (after.at? place).isNone then
      match node with
      | .file _ => IO.FS.removeFile (pathOf place)
      | .directory => pure ()
  for (place, node) in after.nodes do
    if before.at? place != some node then
      match node with
      | .directory => IO.FS.createDirAll (pathOf place)
      | .file bytes =>
        IO.FS.createDirAll (pathOf place.dropLast)
        IO.FS.writeBinFile (pathOf place) ⟨bytes.toArray⟩

def start (words : List String) : IO World := do
  let directory ← IO.currentDir
  let home := Path.ofText directory.toString
  let userHome := Path.ofText ((← IO.getEnv "HOME").getD "/")
  let nodes ← nodesOf home.parts (← directory.readDir)
  let files : FileTree := ⟨(← userConfig userHome) ++ above home.parts ++ nodes, home.parts⟩
  return {
    files := files
    clock := ← clock
    environment := ← environmentOf (configTexts words userHome files)
    userHome := userHome }

end AmbientDecls.Program

open AmbientDecls in
def main (words : List String) : IO UInt32 := do
  let before ← Program.start words
  let outcome := run words before
  Program.writeBack before.files outcome.world.files
  for line in outcome.world.printed do IO.println line
  for line in outcome.logged do IO.eprintln line
  match outcome.failure with
  | some f => IO.eprintln f.message
  | none => pure ()
  return UInt32.ofNat outcome.exitCode
