import AmbientDecls.Files.Compressed.BitStream

/-! Data in the bzip2 format. Bytes that repeat are written once with a count; the last column of the sorted rotations of
a block is written as places in a list whose last used byte moves to the front; and those are written with prefix codes,
runs of the first place as numbers. -/

namespace AmbientDecls.Bzip2

open BitStream

def numberFrom (v : Nat) : Nat → Read Nat
  | 0 => return v
  | n + 1 => do numberFrom (2 * v + if ← bit then 1 else 0) n

def number (width : Nat) : Read Nat := numberFrom 0 width

def mark : List Nat → Read Unit
  | [] => return
  | b :: bs => do
    if (← number 8) ≠ b then throw .broken
    mark bs

def flags : Nat → Read (List Bool)
  | 0 => return []
  | n + 1 => do
    let b ← bit
    return b :: (← flags n)

def flagsOf : List Bool → Read (List Bool)
  | [] => return []
  | b :: bs => do
    let own ← if b then flags 16 else pure (List.replicate 16 false)
    return own ++ (← flagsOf bs)

def usedBytes : Read (List UInt8) := do
  let all ← flagsOf (← flags 16)
  return (all.zipIdx.filter (·.1)).map fun p => UInt8.ofNat p.2

def toFront? {α : Type} (order : List α) (i : Nat) : Option (α × List α) :=
  order[i]?.map fun a => (a, a :: order.eraseIdx i)

theorem length_of_toFront? {α : Type} {order moved : List α} {i : Nat} {a : α}
    (h : toFront? order i = some (a, moved)) : moved.length = order.length := by
  obtain ⟨b, hb, he⟩ := Option.map_eq_some_iff.1 h
  obtain ⟨rfl, rfl⟩ := Prod.mk.inj he
  obtain ⟨hi, _⟩ := List.getElem?_eq_some_iff.1 hb
  rw [List.length_cons, List.length_eraseIdx_of_lt hi]
  omega

def ones : Nat → Read Nat
  | 0 => throw .broken
  | most + 1 => do
    if ← bit then return (← ones most) + 1 else return 0

/-- Which code each group of symbols is written with; the codes so far are in the order of their last use. -/
def selectors (codes : Nat) : Nat → List Nat → Read (List Nat)
  | 0, _ => return []
  | n + 1, order => do
    match toFront? order (← ones codes) with
    | none => throw .broken
    | some (a, order) => return a :: (← selectors codes n order)

def maxLength : Nat := 20

def wordLength : Nat → Nat → Read Nat
  | 0, _ => throw .cut
  | fuel + 1, n => do
    if n < 1 ∨ maxLength < n then throw .broken
    else if ← bit then wordLength fuel (if ← bit then n - 1 else n + 1)
    else return n

def wordLengths (fuel : Nat) : Nat → Nat → Read (List Nat)
  | 0, _ => return []
  | count + 1, n => do
    let n ← wordLength fuel n
    return n :: (← wordLengths fuel count n)

def readCodes (fuel size : Nat) : Nat → Read (List Code)
  | 0 => return []
  | n + 1 => do
    let lengths ← wordLengths fuel size (← number 5)
    return Code.ofLengths (maxLength + 1) lengths :: (← readCodes fuel size n)

def groupSize : Nat := 50

def maxGroups : Nat := 18002

structure Choice where
  code : Code := ⟨[], #[]⟩
  left : Nat := 0
  later : List Nat

def Choice.read (codes : Array Code) (c : Choice) : Read (Nat × Choice) := do
  match c.left, c.later with
  | left + 1, _ => return (← c.code.read, { c with left := left })
  | 0, [] => throw .broken
  | 0, i :: later =>
    let code := codes.getD i ⟨[], #[]⟩
    return (← code.read, ⟨code, groupSize - 1, later⟩)

def runLimit : Nat := 0x200000

/-- The last column of a block of `limit` bytes at most, whose symbols end with `stop`. The digits read so far make a run
of `run`, and the next one weighs `weight`. -/
def lastColumn (codes : Array Code) (limit stop : Nat) :
    Nat → Choice → List UInt8 → Nat → Nat → Array UInt8 → Read (Array UInt8)
  | 0, _, _, _, _, _ => throw .cut
  | fuel + 1, c, order, run, weight, done => do
    let (symbol, c) ← c.read codes
    if symbol < 2 then
      if runLimit ≤ weight then throw .broken
      else lastColumn codes limit stop fuel c order (run + (symbol + 1) * weight) (2 * weight) done
    else
      if limit < done.size + run then throw .broken
      let done := (List.replicate run (order.headD 0)).foldl Array.push done
      if symbol = stop then return done
      else if limit ≤ done.size then throw .broken
      else match toFront? order (symbol - 1) with
        | none => throw .broken
        | some (b, order) => lastColumn codes limit stop fuel c order 0 1 (done.push b)

/-- The bytes from a place on, each followed by the one at the place that the table gives for it. -/
def follow (column : Array UInt8) (next : Array Nat) : Nat → Nat → Bytes
  | 0, _ => []
  | n + 1, i => column.getD i 0 :: follow column next n (next.getD i 0)

/-- The block whose sorted rotations have a last column; `start` is the row of the block itself. -/
def unsorted (column : Array UInt8) (start : Nat) : Bytes :=
  let next := ((List.range column.size).mergeSort fun i j =>
    column.getD i 0 ≤ column.getD j 0).toArray
  follow column next column.size (next.getD start 0)

def runLength : Nat := 4

/-- Bytes with the runs that counts stand for; `same` bytes equal to `last` were just read. A count may not be
missing. -/
def expanded (last : UInt8) : Nat → Array UInt8 → Bytes → Option (Array UInt8)
  | same, done, [] => if same = runLength then none else some done
  | same, done, b :: s =>
    if same = runLength then
      expanded last 0 ((List.replicate b.toNat last).foldl Array.push done) s
    else if same ≠ 0 ∧ b = last then expanded last (same + 1) (done.push b) s
    else expanded b 1 (done.push b) s

def crcBits : Nat → UInt32 → UInt32
  | 0, c => c
  | n + 1, c =>
    crcBits n (if c &&& 0x80000000 ≠ 0 then (c <<< 1) ^^^ 0x04c11db7 else c <<< 1)

def crc (s : Array UInt8) : UInt32 :=
  ~~~ s.foldl (fun (c : UInt32) (b : UInt8) => crcBits 8 (c ^^^ (b.toUInt32 <<< 24))) 0xffffffff

def combined (all own : UInt32) : UInt32 := ((all <<< 1) ||| (all >>> 31)) ^^^ own

def readColumn (limit : Nat) : Read (Array UInt8 × Nat) := do
  if ← bit then throw .broken
  let start ← number 24
  if limit + 10 < start then throw .broken
  let used ← usedBytes
  if used.isEmpty then throw .broken
  let size ← number 3
  if size < 2 ∨ 6 < size then throw .broken
  let groups ← number 15
  if groups = 0 then throw .broken
  let chosen ← selectors size groups (List.range size)
  let fuel := (← get).length + 1
  let codes ← readCodes fuel (used.length + 2) size
  let column ← lastColumn codes.toArray limit (used.length + 1) fuel ⟨⟨[], #[]⟩, 0, chosen.take maxGroups⟩
    used 0 1 #[]
  if column.size ≤ start then throw .broken
  return (column, start)

def readBlock (limit : Nat) : Read (Array UInt8 × UInt32) := do
  let checksum := UInt32.ofNat (← number 32)
  let (column, start) ← readColumn limit
  match expanded 0 0 #[] (unsorted column start) with
  | none => throw .broken
  | some block =>
    if crc block ≠ checksum then throw .broken
    return (block, checksum)

def blockMark : List Nat := [0x41, 0x59, 0x26, 0x53, 0x59]

def endMark : List Nat := [0x72, 0x45, 0x38, 0x50, 0x90]

def nextBlock (limit : Nat) (checksum : UInt32) : Read (Option (Array UInt8 × UInt32)) := do
  match ← number 8 with
  | 0x17 =>
    mark endMark
    if UInt32.ofNat (← number 32) ≠ checksum then throw .broken
    return none
  | 0x31 =>
    mark blockMark
    return some (← readBlock limit)
  | _ => throw .broken

/-- Reads blocks up to the last one. Each takes a bit at least. -/
def readBlocks (limit : Nat) : Nat → UInt32 → Array UInt8 → Bits → Progress
  | 0, _, done, _ => ⟨done, .error .cut⟩
  | fuel + 1, checksum, done, s =>
    match nextBlock limit checksum s with
    | .error e => ⟨done, .error e⟩
    | .ok (none, s) => ⟨done, .ok s⟩
    | .ok (some (block, own), s) => readBlocks limit fuel (combined checksum own) (done ++ block) s

/-- How many bytes the blocks of a stream have at most. -/
def blockLimit : Read Nat := do
  mark [0x42, 0x5a, 0x68]
  let level ← number 8
  if level < 0x31 ∨ 0x39 < level then throw .broken
  return (level - 0x30) * 100000

/-- The data in a stream: all of it, or the blocks before the stream ends or breaks the rules. -/
def expand (s : Bytes) : Unpacked :=
  match blockLimit (highFirst s) with
  | .error e => ⟨#[], some e⟩
  | .ok (limit, rest) => (readBlocks limit (rest.length + 1) 0 #[] rest).unpacked

theorem expand_nil : expand [] = ⟨#[], some .cut⟩ := rfl

end AmbientDecls.Bzip2
