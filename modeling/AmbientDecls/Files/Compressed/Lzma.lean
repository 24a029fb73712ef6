import AmbientDecls.Files.Compressed.BitStream

/-! Data in the lzma format: literal bytes and repetitions of what was read before, written bit by bit with the chances
that the bits read so far give. -/

namespace AmbientDecls.Lzma

open BitStream (Ending Unpacked copied)

/-- How a stream was written: how many bits of the byte before and of the place choose the chances of a literal, and how
many bits of the place choose those of the rest. -/
structure Properties where
  byteBits : Nat
  placeBits : Nat
  restBits : Nat
deriving DecidableEq, Repr

/-- The properties in five bytes, of which the last four say how far repetitions reach. -/
def Properties.ofBytes? : Bytes → Option Properties
  | [b, _, _, _, _] =>
    let n := b.toNat
    let p : Properties := ⟨n % 9, n / 9 % 5, n / 45⟩
    if n < 225 ∧ p.byteBits + p.placeBits ≤ 4 then some p else none
  | _ => none

/-- The coder: a part of a range, and the chances of the bits by context, in parts of `chanceRange`. -/
structure Coder where
  range : UInt32 := 0xffffffff
  code : UInt32
  rest : Bytes
  chances : Array UInt32

abbrev Read := StateT Coder (Except Ending)

def chanceRange : UInt32 := 2048

def widen : Read Unit := fun c =>
  if 0x1000000 ≤ c.range then .ok ((), c)
  else match c.rest with
    | [] => .error .cut
    | b :: rest => .ok ((), { c with
        range := c.range <<< 8, code := (c.code <<< 8) ||| b.toUInt32, rest := rest })

def bitIn (context : Nat) : Read Bool := do
  widen
  fun c =>
    let chance := c.chances.getD context 0
    let bound := (c.range >>> 11) * chance
    if c.code < bound then
      .ok (false, { c with
        range := bound, chances := c.chances.setIfInBounds context (chance + ((chanceRange - chance) >>> 5)) })
    else
      .ok (true, { c with
        range := c.range - bound, code := c.code - bound
        chances := c.chances.setIfInBounds context (chance - (chance >>> 5)) })

def evenBit : Read Bool := do
  widen
  fun c =>
    let range := c.range >>> 1
    let code := c.code - range
    if code &&& 0x80000000 = 0 then .ok (true, { c with range := range, code := code })
    else .ok (false, { c with range := range, code := code + range })

def digit (b : Bool) : Nat := if b then 1 else 0

/-- Further `n` bits of a number, the highest first; those read so far choose the context. -/
def treeFrom (base : Nat) : Nat → Nat → Read Nat
  | 0, m => return m
  | n + 1, m => do treeFrom base n (2 * m + digit (← bitIn (base + m)))

def tree (base n : Nat) : Read Nat := do return (← treeFrom base n 1) - Nat.pow 2 n

/-- A number of `n` bits, the lowest first; those read so far choose the context. -/
def lowTree (base : Nat) : Nat → Nat → Read Nat
  | 0, _ => return 0
  | n + 1, m => do
    let b ← bitIn (base + m)
    return digit b + 2 * (← lowTree base n (2 * m + digit b))

def evenNumber : Nat → Nat → Read Nat
  | 0, v => return v
  | n + 1, v => do evenNumber n (2 * v + digit (← evenBit))

/-! The contexts, by what is read in them. -/

def isRepetition (state place : Nat) : Nat := 16 * state + place

def isKnown (state : Nat) : Nat := 192 + state

def isNotFirst (state : Nat) : Nat := 204 + state

def isNotSecond (state : Nat) : Nat := 216 + state

def isNotThird (state : Nat) : Nat := 228 + state

def isLong (state place : Nat) : Nat := 240 + 16 * state + place

def slots (i : Nat) : Nat := 432 + 64 * i

def nearDistances : Nat := 688

def lowDistances : Nat := 803

def newLengths : Nat := 819

def knownLengths : Nat := 1333

def literals : Nat := 1847

def literalSize : Nat := 0x300

def lengthIn (base place : Nat) : Read Nat := do
  if !(← bitIn base) then tree (base + 2 + 8 * place) 3
  else if !(← bitIn (base + 1)) then return (← tree (base + 130 + 8 * place) 3) + 8
  else return (← tree (base + 258) 8) + 16

def shortest : Nat := 2

/-- A distance, less one; `length` is the length less the shortest. -/
def distance (length : Nat) : Read Nat := do
  let slot ← tree (slots (min length 3)) 6
  if slot < 4 then return slot
  else
    let bits := slot / 2 - 1
    let high := 2 + slot % 2
    if slot < 14 then
      let base := high * Nat.pow 2 bits
      return base + (← lowTree (nearDistances + base - slot) bits 1)
    else
      let high ← evenNumber (bits - 4) high
      return 16 * high + (← lowTree lowDistances 4 1)

def endDistance : Nat := 0xffffffff

/-- The rest of a literal behind the bits `m`, as long as they are those of the byte that the last repetition
would go on with. -/
def likeliest (base : Nat) (byte : Nat) : Nat → Nat → Read Nat
  | 0, m => return m
  | n + 1, m => do
    let expected := byte.testBit n
    let b ← bitIn (base + 256 * (1 + digit expected) + m)
    let m := 2 * m + digit b
    if b = expected then likeliest base byte n m else treeFrom base n m

/-- What was read lately: which kinds of steps, and the last four distances less one. -/
structure History where
  state : Nat := 0
  distances : List Nat := [0, 0, 0, 0]

inductive Step
  | literal (byte : Nat)
  | repetition (distance length : Nat)
  | finish

def History.first (h : History) : Nat := h.distances.headD 0

def literalStates : Nat := 7

def History.afterLiteral (h : History) : History :=
  { h with state := if h.state < 4 then 0 else if h.state < 10 then h.state - 3 else h.state - 6 }

/-- The history after a repetition; the state is one of two, by whether the last step was a literal. -/
def History.after (h : History) (distances : List Nat) (literal other : Nat) : History :=
  ⟨if h.state < literalStates then literal else other, distances⟩

def readLiteral (p : Properties) (h : History) (done : Array UInt8) : Read Step := do
  let before := if done.size = 0 then 0 else (done.getD (done.size - 1) 0).toNat
  let choice := done.size % Nat.pow 2 p.placeBits * Nat.pow 2 p.byteBits + before / Nat.pow 2 (8 - p.byteBits)
  let base := literals + literalSize * choice
  if h.state < literalStates then return .literal ((← treeFrom base 8 1) % 256)
  else
    let byte := done.getD (done.size - 1 - h.first) 0
    return .literal ((← likeliest base byte.toNat 8 1) % 256)

def readNew (h : History) (place size : Nat) : Read (Step × History) := do
  let length ← lengthIn newLengths place
  let d ← distance length
  let next := h.after (d :: h.distances.take 3) 7 10
  if d = endDistance then return (.finish, next)
  else if size ≤ d then throw .broken
  else return (.repetition (d + 1) (length + shortest), next)

/-- Which of the last distances is meant; that one becomes the first. -/
def readKnown (h : History) : Read (List Nat) := do
  match h.distances with
  | [a, b, c, d] =>
    if !(← bitIn (isNotSecond h.state)) then return [b, a, c, d]
    else if !(← bitIn (isNotThird h.state)) then return [c, a, b, d]
    else return [d, a, b, c]
  | ds => return ds

def readLong (h : History) (place : Nat) : Read (Step × History) := do
  let length ← lengthIn knownLengths place
  return (.repetition (h.first + 1) (length + shortest), h.after h.distances 8 11)

def readAgain (h : History) (place size : Nat) : Read (Step × History) := do
  if size = 0 then throw .broken
  if ← bitIn (isNotFirst h.state) then readLong { h with distances := ← readKnown h } place
  else if ← bitIn (isLong h.state place) then readLong h place
  else return (.repetition (h.first + 1) 1, h.after h.distances 9 11)

def step (p : Properties) (h : History) (done : Array UInt8) : Read (Step × History) := do
  let place := done.size % Nat.pow 2 p.restBits
  if !(← bitIn (isRepetition h.state place)) then return (← readLiteral p h done, h.afterLiteral)
  else if !(← bitIn (isKnown h.state)) then readNew h place done.size
  else readAgain h place done.size

/-- Takes steps up to the end of the data, behind which nothing may be left of the range. -/
def steps (p : Properties) : Nat → Coder → History → Array UInt8 → Unpacked
  | 0, _, _, done => ⟨done, some .cut⟩
  | fuel + 1, c, h, done =>
    match step p h done c with
    | .error e => ⟨done, some e⟩
    | .ok ((.literal b, h), c) => steps p fuel c h (done.push (UInt8.ofNat b))
    | .ok ((.repetition d n, h), c) => steps p fuel c h (copied d n done)
    | .ok ((.finish, _), c) =>
      match widen c with
      | .error e => ⟨done, some e⟩
      | .ok (_, c) => ⟨done, if c.code = 0 then none else some .broken⟩

/-- How many steps a byte can hold at most: a bit takes a sixty-seventh part of the range at least. -/
def stepsInByte : Nat := 400

/-- The data in a stream: all of it, or what comes before the stream ends or breaks the rules. -/
def expand (p : Properties) : Bytes → Unpacked
  | 0 :: a :: b :: c :: d :: rest =>
    let code := [a, b, c, d].foldl (fun (n : UInt32) (x : UInt8) => (n <<< 8) ||| x.toUInt32) 0
    let contexts := literals + literalSize * Nat.pow 2 (p.byteBits + p.placeBits)
    let coder : Coder := { code, rest, chances := Array.replicate contexts (chanceRange >>> 1) }
    steps p (stepsInByte * (rest.length + 8)) coder {} #[]
  | 0 :: _ => ⟨#[], some .cut⟩
  | [] => ⟨#[], some .cut⟩
  | _ :: _ => ⟨#[], some .broken⟩

theorem expand_nil (p : Properties) : expand p [] = ⟨#[], some .cut⟩ := rfl

end AmbientDecls.Lzma
