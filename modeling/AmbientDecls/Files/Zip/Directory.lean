import AmbientDecls.Files.Zip.Basic
import AmbientDecls.Text.CodePage
import AmbientDecls.Text.Quoted

/-! The directory of a zip archive. It is found from the end of the bytes, so other bytes may stand before the archive
and after it. -/

namespace AmbientDecls.Zip

inductive Damage
  | notAnArchive
  | manyDisks
  | directoryOffset
  | directoryCut
  | directoryMark
  | extraField (tag : Nat) (size : Nat)
  /-- A large number that is announced is not there. -/
  | longNumber (field : String)
  | headerCut
  | headerMark
  /-- The two records of an entry do not have the same name. -/
  | nameDiffers (name : String) (header : Bytes)
  | overlap (name : String)
  | checksum (name : String)
deriving DecidableEq, Repr

def Damage.message : Damage → String
  | notAnArchive => "File is not a zip file"
  | manyDisks => "zipfiles that span multiple disks are not supported"
  | directoryOffset => "Bad offset for central directory"
  | directoryCut => "Truncated central directory"
  | directoryMark => "Bad magic number for central directory"
  | extraField tag size =>
    "Corrupt extra field " ++ String.ofList (Text.hexPadded 4 tag) ++ " (size=" ++ toString size ++ ")"
  | longNumber field => "Corrupt zip64 extra field. " ++ field ++ " not found."
  | headerCut => "Truncated file header"
  | headerMark => "Bad magic number for file header"
  | nameDiffers name header =>
    "File name in directory " ++ String.ofList (Text.quoted name.toList) ++ " and header " ++
      String.ofList (Text.quotedBytes header) ++ " differ."
  | overlap name =>
    "Overlapped entries: " ++ String.ofList (Text.quoted name.toList) ++ " (possible zip bomb)"
  | checksum name => "Bad CRC-32 for file " ++ String.ofList (Text.quoted name.toList)

inductive Fault
  | damaged (d : Damage)
  | unsupported
  | encrypted
  | notUtf8 (fault : Utf8.Fault)
  | beforeStart
  /-- Compressed data that breaks the rules of its format: repetitions, sorted blocks, or steps of chances. -/
  | brokenData
  | brokenBlocks
  | brokenSteps
  | missingData
deriving DecidableEq, Repr

structure Entry where
  written : String
  flags : Nat
  method : Nat
  checksum : Nat
  packedSize : Nat
  size : Nat
  offset : Int
  limit : Int := 0
deriving DecidableEq, Repr

namespace Entry

def name (e : Entry) : String := nameOf e.written

def isDirectory (e : Entry) : Bool := e.name.toList.getLast? == some '/'

end Entry

/-- Where the directory is: its size and its offset as the end record gives them, and where the end record begins. The
offset may be wrong by the length of what stands before the archive. -/
structure Ending where
  size : Nat
  offset : Nat
  location : Int
deriving DecidableEq, Repr

def endSize : Nat := 22

def longEndSize : Nat := 56

def longLocatorSize : Nat := 20

/-- The last place at which an end record begins; `found` is the last one so far. -/
def lastEnd? : Nat → Option Nat → Bytes → Option Nat
  | _, found, [] => found
  | i, found, b :: s => lastEnd? (i + 1) (if endMark.isPrefixOf (b :: s) then some i else found) s

/-- Where the end record begins: at the end of the bytes if it has no comment, or else not farther from it than
a comment may be long. -/
def endLocation? (s : Bytes) : Option Nat :=
  let plain := s.length - endSize
  let tail := s.drop plain
  if s.length < endSize then none
  else if endMark.isPrefixOf tail ∧ field tail 20 2 = 0 then some plain
  else
    let start := s.length - (0x10000 + endSize)
    match lastEnd? start none (s.drop start) with
    | some i => if i + endSize ≤ s.length then some i else none
    | none => none

/-- The end record of a large archive before a place, if there is one. -/
def longEnding? (s : Bytes) (location : Nat) : Except Fault (Option Ending) :=
  if location < longLocatorSize then .ok none
  else
    let locator := s.drop (location - longLocatorSize)
    if !longLocatorMark.isPrefixOf locator then .ok none
    else if field locator 4 4 ≠ 0 ∨ 1 < field locator 16 4 then .error (.damaged .manyDisks)
    else if location < longLocatorSize + longEndSize then .error (.damaged .notAnArchive)
    else
      let record := s.drop (location - longLocatorSize - longEndSize)
      if !longEndMark.isPrefixOf record then .ok none
      else .ok (some ⟨field record 40 8, field record 48 8,
        location - (longLocatorSize + longEndSize : Nat)⟩)

def ending (s : Bytes) : Except Fault Ending := do
  match endLocation? s with
  | none => .error (.damaged .notAnArchive)
  | some location =>
    let record := s.drop location
    return (← longEnding? s location).getD ⟨field record 12 4, field record 16 4, location⟩

/-- The number in eight bytes at the front, in place of one that does not fit its field. -/
def longNumber (name : String) (data : Bytes) : Except Fault (Nat × Bytes) :=
  if data.length < 8 then .error (.damaged (.longNumber name))
  else .ok (field data 0 8, data.drop 8)

def Entry.lengthened (e : Entry) (data : Bytes) : Except Fault Entry := do
  let (size, data) ←
    if e.size = 0xffffffff ∨ e.size = 0xffffffffffffffff then longNumber "File size" data
    else .ok (e.size, data)
  let (packedSize, data) ←
    if e.packedSize = 0xffffffff then longNumber "Compress size" data else .ok (e.packedSize, data)
  let offset : Int ←
    if e.offset = 0xffffffff then (longNumber "Header offset" data).map fun n => (n.1 : Int)
    else .ok e.offset
  return { e with size := size, packedSize := packedSize, offset := offset }

def Entry.extended : Nat → Entry → Bytes → Except Fault Entry
  | 0, e, _ => .ok e
  | fuel + 1, e, extra => do
    if extra.length < 4 then return e
    else
      let tag := field extra 0 2
      let size := field extra 2 2
      if extra.length < size + 4 then throw (.damaged (.extraField tag size))
      else
        let e ← if tag = 1 then e.lengthened ((extra.drop 4).take size) else .ok e
        extended fuel e (extra.drop (size + 4))

def readName (flags : Nat) (s : Bytes) : Except Fault String :=
  if hasFlag flags utf8Flag then (Utf8.decode s).mapError .notUtf8 else .ok (CodePage.decode s)

def centralSize : Nat := 46

/-- The latest version of the format that can be read. -/
def latestVersion : Nat := 63

/-- The entries in `left` bytes of a directory; offsets in it are moved by `shift`. -/
def readEntries (shift : Int) : Nat → Int → Bytes → Except Fault (List Entry)
  | 0, _, _ => .ok []
  | fuel + 1, left, s => do
    if left ≤ 0 then return []
    else if s.length < centralSize then throw (.damaged .directoryCut)
    else if !centralMark.isPrefixOf s then throw (.damaged .directoryMark)
    else
      let nameSize := field s 28 2
      let extraSize := field s 30 2
      let commentSize := field s 32 2
      let flags := field s 8 2
      let written ← readName flags ((s.drop centralSize).take nameSize)
      if latestVersion < field s 6 1 then throw .unsupported
      let e : Entry := ⟨written, flags, field s 10 2, field s 16 4, field s 20 4, field s 24 4,
        field s 42 4, 0⟩
      let extra := (s.drop (centralSize + nameSize)).take extraSize
      let e ← e.extended (extra.length + 1) extra
      let size := centralSize + nameSize + extraSize + commentSize
      let rest ← readEntries shift fuel (left - (size : Nat)) (s.drop size)
      return { e with offset := e.offset + shift } :: rest

/-- The entries with the places where their records have to end: where the next record begins, or the directory. Of
two records at one place only the first may be longer than nothing. -/
def limited (start : Int) (es : List Entry) : List Entry :=
  es.zipIdx.map fun (e, i) =>
    let later := (es.filter fun d => e.offset < d.offset).map (·.offset)
    let limit := if (es.take i).any fun d => d.offset == e.offset then e.offset
      else later.foldl (fun (m : Option Int) o => some (m.elim o (min o))) none |>.getD start
    { e with limit := limit }

def entries (s : Bytes) : Except Fault (List Entry) := do
  let ending ← ending s
  let start := ending.location - ending.size
  if start < 0 then throw (.damaged .directoryOffset)
  else
    let directory := (s.drop start.toNat).take ending.size
    let es ← readEntries (start - ending.offset) (directory.length + 1) ending.size directory
    return limited start es

end AmbientDecls.Zip
