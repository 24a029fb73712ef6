/-! The exact value of a double: a finite one is a natural number times a power of two. -/

namespace AmbientDecls.Decimal

/-- What the bits of a double stand for; `finite negative m q` is `m * 2 ^ q` with a sign. -/
inductive Binary
  | nan
  | infinite (negative : Bool)
  | finite (negative : Bool) (m : Nat) (q : Int)
deriving DecidableEq, Repr

def powerOfTwo (n : Nat) : Nat := Nat.pow 2 n

def Binary.ofBits (bits : Nat) : Binary :=
  let negative : Bool := bits / powerOfTwo 63 % 2 = 1
  let exponent : Nat := bits / powerOfTwo 52 % powerOfTwo 11
  let fraction : Nat := bits % powerOfTwo 52
  if exponent = 2047 then (if fraction = 0 then .infinite negative else .nan)
  else if exponent = 0 then .finite negative fraction (-1074)
  else .finite negative (fraction + powerOfTwo 52) (exponent - 1075)

def Binary.ofFloat (x : Float) : Binary := .ofBits x.toBits.toNat

/-- The value as an integer, if it is one. -/
def Binary.toInt? : Binary → Option Int
  | .finite negative m q =>
    let signed (n : Nat) : Int := if negative then -n else n
    if 0 ≤ q then some (signed (m * powerOfTwo q.toNat))
    else
      let unit := powerOfTwo (-q).toNat
      if m % unit = 0 then some (signed (m / unit)) else none
  | _ => none

theorem Binary.toInt?_nan : Binary.toInt? .nan = none := rfl

theorem Binary.toInt?_infinite (b : Bool) : Binary.toInt? (.infinite b) = none := rfl

end AmbientDecls.Decimal
