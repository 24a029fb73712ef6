import AmbientDecls.Text.Utf8

/-! Streams of bits: reading from their front, prefix codes, and repetitions of what was read before. -/

namespace AmbientDecls.BitStream

abbrev Bits := List Bool

inductive Ending
  | cut
  | broken
deriving DecidableEq, Repr

abbrev Read := StateT Bits (Except Ending)

def byteBits (b : UInt8) : Bits := (List.range 8).map fun i => b.toNat.testBit i

def lowFirst (s : Bytes) : Bits := s.flatMap byteBits

def highFirst (s : Bytes) : Bits := s.flatMap fun b => (byteBits b).reverse

def bit : Read Bool
  | [] => .error .cut
  | b :: s => .ok (b, s)

/-- A prefix code: how many words it has of each length from one on, and the symbols in the order of their words.
Words of one length are successive numbers, and shorter words come first. -/
structure Code where
  counts : List Nat
  symbols : Array Nat

namespace Code

/-- The code whose words have the given lengths, `longest` at most; a symbol of length zero has no word. -/
def ofLengths (longest : Nat) (lengths : List Nat) : Code :=
  let range := (List.range longest).map (· + 1)
  { counts := range.map fun n => lengths.count n
    symbols := (range.flatMap fun n => (lengths.zipIdx.filter fun p => p.1 == n).map (·.2)).toArray }

/-- Reads the rest of a word: `word` is what was read of it, `first` the first word of the length reached, and `index`
the place of its symbol. -/
def readFrom (symbols : Array Nat) : List Nat → Nat → Nat → Nat → Read Nat
  | [], _, _, _ => throw .broken
  | n :: counts, word, first, index => do
    let b ← bit
    let word := 2 * word + if b then 1 else 0
    let first := 2 * first
    if word < first + n then
      match symbols[index + (word - first)]? with
      | some v => return v
      | none => throw .broken
    else readFrom symbols counts word (first + n) (index + n)

def read (c : Code) : Read Nat := readFrom c.symbols c.counts 0 0 0

end Code

def copied (distance : Nat) : Nat → Array UInt8 → Array UInt8
  | 0, done => done
  | n + 1, done => copied distance n (done.push (done.getD (done.size - distance) 0))

@[simp] theorem size_copied (distance n : Nat) (done : Array UInt8) :
    (copied distance n done).size = done.size + n := by
  induction n generalizing done with
  | zero => rfl
  | succ n ih =>
    rw [copied, ih, Array.size_push]
    omega

/-- What was read so far, and whether reading goes on: with the rest, or not at all. -/
structure Progress where
  done : Array UInt8
  next : Except Ending Bits

/-- What a stream holds, and why it ends too early if it does. -/
structure Unpacked where
  done : Array UInt8
  fault : Option Ending
deriving DecidableEq

def Progress.unpacked (p : Progress) : Unpacked :=
  ⟨p.done, match p.next with
    | .ok _ => none
    | .error e => some e⟩

end AmbientDecls.BitStream
