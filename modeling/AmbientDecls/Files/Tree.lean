import AmbientDecls.Files.Path
import AmbientDecls.Text.Quoted
import AmbientDecls.Text.Utf8

/-! A tree of files and directories, and what may go wrong when a path is looked up in it. -/

namespace AmbientDecls

/-- Where something is: the names from the root on. -/
abbrev Place := List String

inductive Node
  | file (bytes : Bytes)
  | directory
deriving DecidableEq

inductive FileCause
  | notFound
  | permission
  | busy
  | exists
  | notADirectory
  | isADirectory
  | invalid
  | nameTooLong
  /-- The content of a file is not what it should be; the system has no number for that. -/
  | brokenStream
deriving DecidableEq, Repr

namespace FileCause

def number? : FileCause → Option Nat
  | notFound => some 2
  | permission => some 13
  | busy => some 16
  | .exists => some 17
  | notADirectory => some 20
  | isADirectory => some 21
  | invalid => some 22
  | nameTooLong => some 36
  | brokenStream => none

def text : FileCause → String
  | notFound => "No such file or directory"
  | permission => "Permission denied"
  | busy => "Device or resource busy"
  | .exists => "File exists"
  | notADirectory => "Not a directory"
  | isADirectory => "Is a directory"
  | invalid => "Invalid argument"
  | nameTooLong => "File name too long"
  | brokenStream => "Invalid data stream"

end FileCause

/-- A failed operation with the path that it was asked for, and the second path if there are two. An operation inside an
open file has no path. -/
structure FileError where
  cause : FileCause
  path : Option String
  target : Option String := none
deriving DecidableEq, Repr

def FileError.message (e : FileError) : String :=
  let shown (s : String) := String.ofList (Text.quoted s.toList)
  (e.cause.number?.map fun n => "[Errno " ++ toString n ++ "] ").getD "" ++ e.cause.text ++
    (e.path.map fun p => ": " ++ shown p).getD "" ++ (e.target.map fun t => " -> " ++ shown t).getD ""

/-- Files and directories by place. The root is a directory without being listed; paths that do not begin at
the root begin at `home`. -/
structure FileTree where
  nodes : List (Place × Node)
  home : Place
deriving DecidableEq

namespace FileTree

def at? (t : FileTree) (place : Place) : Option Node :=
  if place = [] then some .directory else t.nodes.lookup place

def set (t : FileTree) (place : Place) (n : Node) : FileTree :=
  { t with nodes := (place, n) :: t.nodes.filter fun e => e.1 ≠ place }

def remove (t : FileTree) (place : Place) : FileTree :=
  { t with nodes := t.nodes.filter fun e => !place.isPrefixOf e.1 }

@[simp] theorem set_home (t : FileTree) (place : Place) (n : Node) : (t.set place n).home = t.home := rfl

theorem at?_set_self {t : FileTree} {place : Place} (h : place ≠ []) (n : Node) :
    (t.set place n).at? place = some n := by
  simp [at?, set, h]

theorem lookup_filter (keep : Place → Bool) (nodes : List (Place × Node)) (place : Place) :
    (nodes.filter fun e => keep e.1).lookup place = if keep place then nodes.lookup place else none := by
  induction nodes with
  | nil => simp
  | cons e es ih =>
    obtain ⟨p, n⟩ := e
    rw [List.filter_cons]
    by_cases hp : place = p
    · subst hp
      cases h : keep place with
      | true => simp
      | false => simpa [h] using ih
    · have hb : (place == p) = false := beq_false_of_ne hp
      cases keep p <;> simp [List.lookup_cons, hb, ih]

theorem at?_set_of_ne {t : FileTree} {place p : Place} (h : p ≠ place) (n : Node) :
    (t.set place n).at? p = t.at? p := by
  have hf := lookup_filter (fun q => q ≠ place) t.nodes p
  rw [if_pos (decide_eq_true h)] at hf
  simp only [at?, set, List.lookup_cons, beq_false_of_ne h, hf]

theorem at?_remove {t : FileTree} {place p : Place} (h : p ≠ []) :
    (t.remove place).at? p = if place.isPrefixOf p then none else t.at? p := by
  have hf := lookup_filter (fun q => !place.isPrefixOf q) t.nodes p
  simp only [at?, remove, h, if_false, hf]
  cases place.isPrefixOf p <;> rfl

def nameLimit : Nat := 255

def pathLimit : Nat := 4095

/-- Follows names from a directory on; all but the last must be directories. -/
def walk (t : FileTree) : Place → List String → Except FileCause Place
  | place, [] => .ok place
  | place, n :: rest =>
    let next := if n = ".." then place.dropLast else place ++ [n]
    if nameLimit < n.utf8ByteSize then .error .nameTooLong
    else if rest = [] then .ok next
    else match t.at? next with
      | some .directory => t.walk next rest
      | some (.file _) => .error .notADirectory
      | none => .error .notFound

def locate (t : FileTree) (p : Path) : Except FileCause Place :=
  if pathLimit < p.toText.utf8ByteSize then .error .nameTooLong
  else t.walk (if p.isAbsolute then [] else t.home) p.parts

/-- What is at a path; nothing if the path cannot be followed. A path that is too long is refused. -/
def status (t : FileTree) (p : Path) : Except FileCause (Option Node) :=
  match t.locate p with
  | .ok place => .ok (t.at? place)
  | .error .nameTooLong => .error .nameTooLong
  | .error _ => .ok none

/-- What is at a path; nothing if the path cannot be followed. -/
def find? (t : FileTree) (p : Path) : Option Node :=
  match t.locate p with
  | .ok place => t.at? place
  | .error _ => none

def contains (t : FileTree) (p : Path) : Bool := (t.find? p).isSome

def isFile (t : FileTree) (p : Path) : Bool :=
  match t.find? p with
  | some (.file _) => true
  | _ => false

def isDirectory (t : FileTree) (p : Path) : Bool := t.find? p == some .directory

def read (t : FileTree) (p : Path) : Except FileCause Bytes := do
  let place ← t.locate p
  match t.at? place with
  | some (.file bytes) => .ok bytes
  | some .directory => .error .isADirectory
  | none => .error .notFound

/-- The content of the file that a text names. A text that ends in a slash or in a single dot can name nothing but
a directory, and the empty text names nothing. -/
def readNamed (t : FileTree) (name : String) : Except FileCause Bytes := do
  if name.isEmpty then throw .notFound
  if pathLimit < name.utf8ByteSize then throw .nameTooLong
  let bytes ← t.read (Path.ofText name)
  if name.endsWith "/" || name.endsWith "/." then throw .notADirectory
  return bytes

def list (t : FileTree) (p : Path) : Except FileCause (List String) := do
  let place ← t.locate p
  match t.at? place with
  | some .directory =>
    let names := t.nodes.filterMap fun e =>
      if e.1.dropLast = place ∧ e.1 ≠ [] then e.1.getLast? else none
    .ok (names.mergeSort fun a b => !(b < a))
  | some (.file _) => .error .notADirectory
  | none => .error .notFound

def write (t : FileTree) (p : Path) (bytes : Bytes) : Except FileCause FileTree := do
  let place ← t.locate p
  match t.at? place with
  | some .directory => .error .isADirectory
  | _ => .ok (t.set place (.file bytes))

def makeDirectory (t : FileTree) (p : Path) : Except FileCause FileTree := do
  let place ← t.locate p
  match t.at? place with
  | some _ => .error .exists
  | none => .ok (t.set place .directory)

def unlink (t : FileTree) (p : Path) : Except FileCause FileTree := do
  let place ← t.locate p
  match t.at? place with
  | some (.file _) => .ok (t.remove place)
  | some .directory => .error .isADirectory
  | none => .error .notFound

/-- Puts a file in the place of another, or where nothing is. Both paths have to end in a name. -/
def rename (t : FileTree) (p q : Path) : Except FileCause FileTree := do
  let source ← t.locate p
  let target ← t.locate q
  if p.endsInDots || q.endsInDots then .error .busy
  else match t.at? source, t.at? target with
  | none, _ => .error .notFound
  | some (.file _), some .directory => .error .isADirectory
  | some (.file bytes), _ => .ok ((t.remove source).set target (.file bytes))
  | some .directory, _ => .error .isADirectory

/-- Takes a directory out with everything in it; anything else stays. -/
def removeAll (t : FileTree) (p : Path) : FileTree :=
  match t.locate p with
  | .ok place => if t.at? place = some .directory ∧ place ≠ [] then t.remove place else t
  | .error _ => t

/-- Puts a node at a place; directories that are missing above it are made. -/
def put (t : FileTree) (place : Place) (n : Node) : FileTree :=
  let above := (List.range place.length).map fun i => place.take i
  let t := above.foldl (fun t p => if (t.at? p).isNone then t.set p .directory else t) t
  match n, t.at? place with
  | .directory, some .directory => t
  | _, _ => t.set place n

/-- Everything below a place with its names from there on; directories end in a slash. -/
def listing (t : FileTree) (place : Place) : List String :=
  let shown := t.nodes.filterMap fun (p, n) =>
    if place.isPrefixOf p ∧ p ≠ place then
      let s := "/".intercalate (p.drop place.length)
      some (if n = .directory then s ++ "/" else s)
    else none
  shown.mergeSort fun a b => !(b < a)

end FileTree
end AmbientDecls
