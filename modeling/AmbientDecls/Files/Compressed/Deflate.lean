import AmbientDecls.Files.Compressed.BitStream

/-! Data in the deflate format: blocks of literal bytes and of repetitions of what was read before, written with prefix
codes that are given by the lengths of their words. -/

namespace AmbientDecls.Deflate

open BitStream

def number : Nat → Read Nat
  | 0 => return 0
  | n + 1 => do
    let b ← bit
    let v ← number n
    return (if b then 1 else 0) + 2 * v

def maxLength : Nat := 15

/-- The code whose words have the given lengths. Lengths behind the greatest do not count. -/
def codeOf (lengths : List Nat) : Code :=
  let c := Code.ofLengths maxLength lengths
  { c with counts := (c.counts.reverse.dropWhile (· == 0)).reverse }

/-- How many words of the greatest length are left over; none if there are more words than fit. -/
def room? (c : Code) : Option Nat :=
  c.counts.foldl (fun room n => room.bind fun r => if n ≤ 2 * r then some (2 * r - n) else none) (some 1)

/-- Whether a code may be used: it is complete, or has a single word of one bit. A code without words may be
used if no symbol is read with it. -/
def isUsable (c : Code) : Bool :=
  match room? c with
  | none => false
  | some room => room == 0 || c.counts == [1] || c.counts.isEmpty

/-- Reads a symbol; without words one bit is wanted. -/
def readSymbol (c : Code) : Read Nat := do
  if c.counts.isEmpty then
    let _ ← bit
  c.read

/-- The shortest repetition that a symbol from 257 on stands for, and how many further bits its length
has. -/
def repeatLengths : List (Nat × Nat) :=
  [(3, 0), (4, 0), (5, 0), (6, 0), (7, 0), (8, 0), (9, 0), (10, 0), (11, 1), (13, 1), (15, 1), (17, 1),
    (19, 2), (23, 2), (27, 2), (31, 2), (35, 3), (43, 3), (51, 3), (59, 3), (67, 4), (83, 4), (99, 4),
    (115, 4), (131, 5), (163, 5), (195, 5), (227, 5), (258, 0)]

/-- The nearest distance that a symbol stands for, and how many further bits it has. -/
def repeatDistances : List (Nat × Nat) :=
  [(1, 0), (2, 0), (3, 0), (4, 0), (5, 1), (7, 1), (9, 2), (13, 2), (17, 3), (25, 3), (33, 4), (49, 4),
    (65, 5), (97, 5), (129, 6), (193, 6), (257, 7), (385, 7), (513, 8), (769, 8), (1025, 9), (1537, 9),
    (2049, 10), (3073, 10), (4097, 11), (6145, 11), (8193, 12), (12289, 12), (16385, 13), (24577, 13)]

def extended (table : List (Nat × Nat)) (symbol : Nat) : Read Nat := do
  match table[symbol]? with
  | none => throw .broken
  | some (base, width) => return base + (← number width)

structure Codes where
  literals : Code
  distances : Code

def repetition (codes : Codes) (symbol : Nat) : Read (Nat × Nat) := do
  let length ← extended repeatLengths (symbol - 257)
  let distance ← extended repeatDistances (← readSymbol codes.distances)
  return (length, distance)

/-- Reads symbols up to the end of a block. Each takes a bit at least. -/
def readBlock (codes : Codes) : Nat → Array UInt8 → Bits → Progress
  | 0, done, _ => ⟨done, .error .cut⟩
  | fuel + 1, done, s =>
    match readSymbol codes.literals s with
    | .error e => ⟨done, .error e⟩
    | .ok (symbol, s) =>
      if symbol < 256 then readBlock codes fuel (done.push (UInt8.ofNat symbol)) s
      else if symbol = 256 then ⟨done, .ok s⟩
      else match repetition codes symbol s with
        | .error e => ⟨done, .error e⟩
        | .ok ((length, distance), s) =>
          if done.size < distance then ⟨done, .error .broken⟩
          else readBlock codes fuel (copied distance length done) s

def fixedCodes : Codes :=
  { literals := codeOf (List.replicate 144 8 ++ List.replicate 112 9 ++ List.replicate 24 7 ++
      List.replicate 8 8)
    distances := codeOf (List.replicate 32 5) }

def lengthOrder : List Nat := [16, 17, 18, 0, 8, 7, 9, 6, 10, 5, 11, 4, 12, 3, 13, 2, 14, 1, 15]

def numbers (width : Nat) : Nat → Read (List Nat)
  | 0 => return []
  | n + 1 => do
    let v ← number width
    return v :: (← numbers width n)

/-- Reads `total` lengths of words; those so far are kept backwards in `done`. Three symbols stand for runs. -/
def readLengths (c : Code) (total : Nat) : Nat → List Nat → Read (List Nat)
  | 0, _ => throw .broken
  | fuel + 1, done => do
    if total ≤ done.length then return done.reverse
    else
      let symbol ← readSymbol c
      if symbol < 16 then readLengths c total fuel (symbol :: done)
      else
        let (base, width) := if symbol = 16 then (3, 2) else if symbol = 17 then (3, 3) else (11, 7)
        let run := base + (← number width)
        if total < done.length + run || (symbol = 16 && done.isEmpty) then throw .broken
        else
          let length := if symbol = 16 then done.headD 0 else 0
          readLengths c total fuel (List.replicate run length ++ done)

/-- The codes at the front of a block that gives its own. A code of lengths without words takes a bit for each
length. -/
def readCodes : Read Codes := do
  let literals := (← number 5) + 257
  let distances := (← number 5) + 1
  let lengths := (← number 4) + 4
  if 286 < literals || 30 < distances then throw .broken
  let given ← numbers 3 lengths
  let lengthCode := codeOf ((List.range 19).map fun n =>
    ((lengthOrder.zip given).lookup n).getD 0)
  let total := literals + distances
  if lengthCode.counts.isEmpty then
    let _ ← number total
    throw .broken
  if room? lengthCode ≠ some 0 then throw .broken
  let all ← readLengths lengthCode total (total + 1) []
  let codes : Codes := ⟨codeOf (all.take literals), codeOf (all.drop literals)⟩
  if all.getD 256 0 = 0 || !isUsable codes.literals || !isUsable codes.distances then throw .broken
  return codes

def readBytes : Nat → Array UInt8 → Bits → Progress
  | 0, done, s => ⟨done, .ok s⟩
  | n + 1, done, s => match number 8 s with
    | .error e => ⟨done, .error e⟩
    | .ok (b, s) => readBytes n (done.push (UInt8.ofNat b)) s

/-- The length of a block that is not compressed. It begins at a whole byte, and its complement
follows. -/
def storedLength : Read Nat := do
  modify fun s => s.drop (s.length % 8)
  let length ← number 16
  let complement ← number 16
  if length + complement ≠ 0xffff then throw .broken
  return length

def readKind (kind : Nat) (done : Array UInt8) (s : Bits) : Progress :=
  match kind with
  | 0 => match storedLength s with
    | .error e => ⟨done, .error e⟩
    | .ok (length, s) => readBytes length done s
  | 1 => readBlock fixedCodes (s.length + 1) done s
  | 2 => match readCodes s with
    | .error e => ⟨done, .error e⟩
    | .ok (codes, s) => readBlock codes (s.length + 1) done s
  | _ => ⟨done, .error .broken⟩

/-- What a block begins with: whether it is the last one, and its kind. -/
def blockHeader : Read (Bool × Nat) := do
  let last ← bit
  return (last, ← number 2)

/-- Reads blocks up to the last one. Each takes a bit at least. -/
def readBlocks : Nat → Array UInt8 → Bits → Progress
  | 0, done, _ => ⟨done, .error .cut⟩
  | fuel + 1, done, s =>
    match blockHeader s with
    | .error e => ⟨done, .error e⟩
    | .ok ((last, kind), s) =>
      match readKind kind done s with
      | ⟨done, .ok s⟩ => if last then ⟨done, .ok s⟩ else readBlocks fuel done s
      | p => p

/-- The data in a stream: all of it, or what comes before the stream ends or breaks the rules. -/
def inflate (s : Bytes) : Unpacked :=
  let bits := lowFirst s
  (readBlocks (bits.length + 1) #[] bits).unpacked

theorem inflate_nil : inflate [] = ⟨#[], some .cut⟩ := rfl

end AmbientDecls.Deflate
