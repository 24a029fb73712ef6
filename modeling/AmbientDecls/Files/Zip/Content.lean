import AmbientDecls.Files.Compressed.Bzip2
import AmbientDecls.Files.Compressed.Deflate
import AmbientDecls.Files.Compressed.Lzma
import AmbientDecls.Files.Zip.Directory

/-! The content of the entries of a zip archive. It is delivered in blocks; a fault loses the block in which it is
found. -/

namespace AmbientDecls.Zip

open BitStream

def localSize : Nat := 30

/-- The flags of data that cannot be read: patches, and strong encryption. -/
def unsupportedFlags : List Nat := [0x20, 0x40]

def encryptedFlag : Nat := 1

inductive Method
  | stored
  | deflated
  | bzip2
  | lzma
deriving DecidableEq, Repr

def Method.ofNumber? : Nat → Option Method
  | 0 => some .stored
  | 8 => some .deflated
  | 12 => some .bzip2
  | 14 => some .lzma
  | _ => none

def Entry.packed (e : Entry) (s : Bytes) : Except Fault (Method × Bytes) := do
  if e.offset < 0 then throw .beforeStart
  let record := s.drop e.offset.toNat
  if record.length < localSize then throw (.damaged .headerCut)
  if !localMark.isPrefixOf record then throw (.damaged .headerMark)
  let rest := record.drop localSize
  let header := rest.take (field record 26 2)
  let data := (rest.drop (field record 26 2)).drop (field record 28 2)
  if unsupportedFlags.any (hasFlag e.flags) then throw .unsupported
  if (← readName (field record 6 2) header) ≠ e.written then
    throw (.damaged (.nameDiffers e.written header))
  if e.limit < ((s.length - data.length + e.packedSize : Nat) : Int) then
    throw (.damaged (.overlap e.written))
  if hasFlag e.flags encryptedFlag then throw .encrypted
  match Method.ofNumber? e.method with
  | some m => return (m, data.take e.packedSize)
  | none => throw .unsupported

def blockSize : Nat := 0x10000

structure Delivery where
  bytes : Bytes
  fault : Option Fault := none
deriving DecidableEq

def wholeBlocks (n : Nat) : Nat := n / blockSize * blockSize

/-- Delivers data that is complete; its checksum has to be right. -/
def Entry.deliver (e : Entry) (data : Bytes) : Delivery :=
  let data := data.take e.size
  if crc data = e.checksum then ⟨data, none⟩
  else ⟨data.take (wholeBlocks (data.length - 1)), some (.damaged (.checksum e.name))⟩

/-- Delivers data that breaks off because packed data is missing; that counts only if more data is wanted. Some packed
data is always wanted. -/
def Entry.deliverCut (e : Entry) (packed data : Bytes) : Delivery :=
  if !packed.isEmpty ∧ e.size ≤ data.length then e.deliver data
  else ⟨data.take (wholeBlocks data.length), some .missingData⟩

/-- Delivers data behind which the packed data is broken; that counts only if more data is wanted. The first block is
always wanted. -/
def Entry.deliverBroken (e : Entry) (data : Bytes) : Delivery :=
  let whole := wholeBlocks data.length
  if 0 < whole ∧ e.size ≤ whole then e.deliver data else ⟨data.take whole, some .brokenData⟩

/-- Delivers unpacked data. If the packed data ends before the stream does, that counts only where some of it is
missing. -/
def Entry.deliverStream (e : Entry) (packed : Bytes) (u : Unpacked) (broken : Delivery) : Delivery :=
  match u.fault with
  | some .broken => broken
  | some .cut =>
    if packed.length < e.packedSize then e.deliverCut packed u.done.toList else e.deliver u.done.toList
  | none => e.deliver u.done.toList

/-- The stream in packed data that begins with a version and the properties of the stream; none if the properties
cannot be. -/
def lzmaData (packed : Bytes) : Option Unpacked :=
  let size := field packed 2 2
  if packed.length ≤ 4 + size then some ⟨#[], some .cut⟩
  else (Lzma.Properties.ofBytes? ((packed.drop 4).take size)).map fun p =>
    Lzma.expand p (packed.drop (4 + size))

def Entry.unpacked (e : Entry) : Method → Bytes → Delivery
  | .stored, packed =>
    if packed.length < e.packedSize then e.deliverCut packed packed else e.deliver packed
  | .deflated, packed =>
    let u := Deflate.inflate packed
    e.deliverStream packed u (e.deliverBroken u.done.toList)
  | .bzip2, packed => e.deliverStream packed (Bzip2.expand packed) ⟨[], some .brokenBlocks⟩
  | .lzma, packed =>
    let broken : Delivery := ⟨[], some .brokenSteps⟩
    match lzmaData packed with
    | some u => e.deliverStream packed u broken
    | none => broken

/-- The entry that is meant by the name of an entry: the last one of that name. -/
def Entry.latest (es : List Entry) (e : Entry) : Entry :=
  ((es.filter fun d => d.name = e.name).getLast?).getD e

end AmbientDecls.Zip
