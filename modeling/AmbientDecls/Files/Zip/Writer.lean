import AmbientDecls.Files.Zip.Basic

/-! Writing zip archives with stored entries. -/

namespace AmbientDecls.Zip

structure Item where
  name : String
  data : Bytes
deriving DecidableEq

def Item.nameBytes (i : Item) : Bytes := Utf8.encode (nameOf i.name)

/-- What both headers of an item say: versions, flags, method, time, date, checksum, sizes. The time is the
first that the format can write. -/
def Item.common (i : Item) : Bytes :=
  let flags := if i.nameBytes.all (· < 0x80) then 0 else utf8Flag
  number 2 20 ++ number 2 flags ++ number 2 0 ++ number 2 0 ++ number 2 0x21 ++ number 4 (crc i.data) ++
    number 4 i.data.length ++ number 4 i.data.length ++ number 2 i.nameBytes.length ++ number 2 0

def Item.localRecord (i : Item) : Bytes := localMark ++ i.common ++ i.nameBytes ++ i.data

def Item.centralRecord (offset : Nat) (i : Item) : Bytes :=
  centralMark ++ number 2 20 ++ i.common ++ number 2 0 ++ number 2 0 ++ number 2 0 ++
    number 4 0x1800000 ++ number 4 offset ++ i.nameBytes

def directory : Nat → List Item → Bytes
  | _, [] => []
  | offset, i :: is => i.centralRecord offset ++ directory (offset + i.localRecord.length) is

def encode (is : List Item) : Bytes :=
  let records := is.flatMap Item.localRecord
  let dir := directory 0 is
  records ++ dir ++ endMark ++ number 2 0 ++ number 2 0 ++ number 2 is.length ++
    number 2 is.length ++ number 4 dir.length ++ number 4 records.length ++ number 2 0

end AmbientDecls.Zip
