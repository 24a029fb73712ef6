/-! UTF-8: bytes of a text and the text of bytes. Reading stops at the first fault and says where it is, how many
bytes are at fault, and why. -/

namespace AmbientDecls

abbrev Bytes := List UInt8

namespace Utf8

def encode (s : String) : Bytes := s.toUTF8.toList

/-- Why bytes are not UTF-8. -/
inductive Reason
  | invalidStart
  | invalidContinuation
  | unexpectedEnd
deriving DecidableEq, Repr

def Reason.message : Reason → String
  | invalidStart => "invalid start byte"
  | invalidContinuation => "invalid continuation byte"
  | unexpectedEnd => "unexpected end of data"

/-- A fault: where it begins, the first byte, how many bytes it takes, and why it is one. -/
structure Fault where
  position : Nat
  byte : UInt8
  count : Nat
  reason : Reason
deriving DecidableEq, Repr

/-- What a first byte announces: the number of bytes that follow, the bounds of the second byte, and its
own share of the code point. -/
structure Lead where
  more : Nat
  low : Nat
  high : Nat
  share : Nat

/-- Overlong forms, surrogates and numbers past U+10FFFF are kept out by the bounds of the second
byte. -/
def lead? (b : Nat) : Option Lead :=
  if b < 0x80 then some ⟨0, 0, 0, b⟩
  else if 0xc2 ≤ b ∧ b < 0xe0 then some ⟨1, 0x80, 0xbf, b - 0xc0⟩
  else if b = 0xe0 then some ⟨2, 0xa0, 0xbf, 0⟩
  else if b = 0xed then some ⟨2, 0x80, 0x9f, 13⟩
  else if 0xe0 < b ∧ b < 0xf0 then some ⟨2, 0x80, 0xbf, b - 0xe0⟩
  else if b = 0xf0 then some ⟨3, 0x90, 0xbf, 0⟩
  else if 0xf0 < b ∧ b < 0xf4 then some ⟨3, 0x80, 0xbf, b - 0xf0⟩
  else if b = 0xf4 then some ⟨3, 0x80, 0x8f, 4⟩
  else none

/-- The bytes at the front that continue a character, at most `n` of them, each between its bounds. -/
def tail : Nat → Nat → Nat → Bytes → List Nat
  | n + 1, low, high, b :: s =>
    if low ≤ b.toNat ∧ b.toNat ≤ high then b.toNat :: tail n 0x80 0xbf s else []
  | _, _, _, _ => []

/-- Reads from a position on; the characters so far are kept backwards in `done`. -/
def decodeFrom : Nat → Nat → List Char → Bytes → Except Fault (List Char)
  | 0, _, done, _ => .ok done.reverse
  | _ + 1, _, done, [] => .ok done.reverse
  | fuel + 1, position, done, b :: s =>
    match lead? b.toNat with
    | none => .error ⟨position, b, 1, .invalidStart⟩
    | some l =>
      let t := tail l.more l.low l.high s
      if t.length = l.more then
        let code := t.foldl (fun n x => n * 64 + (x - 0x80)) l.share
        decodeFrom fuel (position + 1 + l.more) (Char.ofNat code :: done) (s.drop l.more)
      else if s.length = t.length then .error ⟨position, b, 1 + t.length, .unexpectedEnd⟩
      else .error ⟨position, b, 1 + t.length, .invalidContinuation⟩

def decode (s : Bytes) : Except Fault String :=
  (decodeFrom (s.length + 1) 0 [] s).map String.ofList

end Utf8
end AmbientDecls
