import AmbientDecls.Text.Utf8

/-! The parts of zip archives: numbers of several bytes, the checksum, and the marks of records. -/

namespace AmbientDecls.Zip

def number : Nat → Nat → Bytes
  | 0, _ => []
  | width + 1, n => UInt8.ofNat n :: number width (n / 256)

@[simp] theorem length_number (width n : Nat) : (number width n).length = width := by
  induction width generalizing n with
  | zero => rfl
  | succ width ih => simp [number, ih]

def value : Bytes → Nat
  | [] => 0
  | b :: s => b.toNat + 256 * value s

theorem value_number (width n : Nat) : value (number width n) = n % Nat.pow 256 width := by
  induction width generalizing n with
  | zero => exact (Nat.mod_one n).symm
  | succ width ih =>
    have hp : Nat.pow 256 (width + 1) = 256 * Nat.pow 256 width := Nat.pow_succ'
    rw [number, value, ih, hp, Nat.mod_mul, UInt8.toNat_ofNat']

def field (record : Bytes) (start width : Nat) : Nat := value ((record.drop start).take width)

def crcBits : Nat → Nat → Nat
  | 0, c => c
  | n + 1, c => crcBits n (if c % 2 = 1 then (c / 2) ^^^ 0xedb88320 else c / 2)

def crc (s : Bytes) : Nat :=
  (s.foldl (fun c b => crcBits 8 ((c ^^^ b.toNat) % 256) ^^^ (c / 256)) 0xffffffff) ^^^ 0xffffffff

theorem crc_nil : crc [] = 0 := by decide

def localMark : Bytes := [0x50, 0x4b, 3, 4]

def centralMark : Bytes := [0x50, 0x4b, 1, 2]

def endMark : Bytes := [0x50, 0x4b, 5, 6]

/-- The marks of the records of large archives: the end record, and what leads to it. -/
def longEndMark : Bytes := [0x50, 0x4b, 6, 6]

def longLocatorMark : Bytes := [0x50, 0x4b, 6, 7]

def utf8Flag : Nat := 0x800

def hasFlag (flags flag : Nat) : Bool := flags / flag % 2 == 1

def nameOf (s : String) : String := String.ofList (s.toList.takeWhile (· != '\x00'))

end AmbientDecls.Zip
