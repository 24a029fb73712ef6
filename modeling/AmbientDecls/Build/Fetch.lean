import AmbientDecls.Build.World
import AmbientDecls.Files.Url
import AmbientDecls.Files.Zip.Content

/-! Fetching and unpacking distributions. A download appears under its name only when it is complete; an archive is
unpacked only if none of its entries lies outside the target directory. -/

namespace AmbientDecls.Act

def downloadFailure (url message : String) : Failure :=
  .tool ⟨"httpx", "download", url ++ ": " ++ message, none, true⟩

def nextTransfer (url : String) (timeout : Float) : Act Transfer := fun w =>
  let w := { w with requests := w.requests ++ [Request.mk url timeout] }
  match w.transfers with
  | [] => (.ok (.refused w.laterTransfers), w)
  | t :: rest => (.ok t, { w with transfers := rest })

/-- Streams a URL into a file; the file is taken away if the stream breaks off. -/
def stream (url : String) (timeout : Float) (file : Path) : Act Unit := do
  match ← nextTransfer url timeout with
  | .refused message | .rejected message =>
    discard file
    throw (downloadFailure url message)
  | .body chunks fault =>
    write file chunks.flatten
    match fault with
    | none => return
    | some message =>
      discard file
      throw (downloadFailure url message)

/-- Fetches a URL into a directory. An archive that is there already is kept, unless `force` is
set. -/
def download (url : String) (directory : Path) (force : Bool) (timeout : Float) : Act Path := do
  match Url.archiveName url with
  | .error fault => throw (.host fault)
  | .ok name =>
    let archive := directory.child name
    if (← isFile archive) && !force then
      log .info .fetch ("reusing " ++ archive.toText)
      return archive
    ensure directory
    let part := archive.withName (archive.name ++ ".part")
    log .info .fetch ("downloading " ++ url)
    stream url timeout part
    rename part archive
    let bytes ← read archive
    log .info .fetch
      ("downloaded " ++ archive.toText ++ " (" ++ toString bytes.length ++ " bytes)")
    return archive

def unpackFailure (detail : String) (caused : Bool) : Failure :=
  .tool ⟨"unzip", "extract", detail, none, caused⟩

def settled (home : Place) (p : Path) : Place :=
  Path.settle [] ((if p.isAbsolute then [] else home) ++ p.parts)

def confined (home : Place) (directory : Path) (e : Zip.Entry) : Bool :=
  (settled home directory).isPrefixOf (settled home (directory.child e.name))

def lexical (p : Path) : Path :=
  let step (names : List String) (n : String) : List String :=
    if n = ".." then
      match names.getLast? with
      | none => if p.isAbsolute then names else names ++ [n]
      | some last => if last = ".." then names ++ [n] else names.dropLast
    else names ++ [n]
  ⟨p.slashes, p.parts.foldl step []⟩

/-- Where an entry is written: its names below the directory, without dots. -/
def entryPath (directory : Path) (e : Zip.Entry) : Path :=
  lexical ⟨directory.slashes,
    directory.parts ++ (Path.partsOf e.name.toList).filter fun n => n ≠ ".."⟩

def makeChain : Nat → Path → Act Unit
  | 0, p => makeDirectory p
  | fuel + 1, p => do
    if !p.parent.parts.isEmpty && !(← look fun t => t.contains p.parent) then
      match ← attempt (makeChain fuel p.parent) with
      | .ok _ => pure ()
      | .error (.file ⟨.exists, _, _⟩) => pure ()
      | .error e => throw e
    makeDirectory p

def archiveFailure (archive : String) : Zip.Fault → Failure
  | .damaged d => unpackFailure (archive ++ ": " ++ d.message) true
  | .notUtf8 fault => .notUtf8 fault
  | .beforeStart => .file ⟨.invalid, none, none⟩
  | .brokenBlocks => .file ⟨.brokenStream, none, none⟩
  | fault => .archive fault

def readable {α : Type} (archive : String) : Except Zip.Fault α → Act α
  | .ok a => return a
  | .error fault => throw (archiveFailure archive fault)

def unpackEntry (archive : String) (bytes : Bytes) (directory : Path) (all : List Zip.Entry)
    (e : Zip.Entry) : Act Unit := do
  let p := entryPath directory e
  if !p.parent.parts.isEmpty && !(← look fun t => t.contains p.parent) then
    makeChain p.parent.parts.length p.parent
  if e.isDirectory then
    if !(← look fun t => t.isDirectory p) then makeDirectory p
  else
    let e := e.latest all
    let (method, packed) ← readable archive (e.packed bytes)
    let delivery := e.unpacked method packed
    write p delivery.bytes
    match delivery.fault with
    | none => return
    | some fault => throw (archiveFailure archive fault)

/-- Unpacks an archive into a directory, unless the folder that it holds is there already. -/
def unpack (archive : String) (directory : Path) (folder : String) : Act Path := do
  let target := directory.child folder
  if ← isDirectory target then
    log .info .fetch (target.toText ++ " already extracted")
    return target
  usable directory
  let bytes ← readNamed archive
  let entries ← readable archive (Zip.entries bytes)
  let home ← look fun t => t.home
  match entries.find? fun e => !confined home directory e with
  | some e =>
    throw (unpackFailure ("archive member escapes " ++ directory.toText ++ ": " ++ e.name) false)
  | none =>
    entries.forM (unpackEntry archive bytes directory entries)
    if ← isDirectory target then return target
    else throw (unpackFailure (archive ++ " does not contain " ++ folder ++ "/") false)

end AmbientDecls.Act
