namespace HostProbe

structure Binary64 where
  bits : UInt64
deriving DecidableEq, Repr, Inhabited

namespace Binary64

def signBit : Nat := 0x8000000000000000

def hiddenBit : Nat := 0x10000000000000

def magnitude (x : Binary64) : Nat := x.bits.toNat % signBit

def negative (x : Binary64) : Bool := decide (signBit ≤ x.bits.toNat)

/-- The magnitude of the two infinities; every greater one is a NaN. -/
def infinite : Nat := 0x7ff0000000000000

def ofMagnitude (negative : Bool) (magnitude : Nat) : Binary64 :=
  ⟨UInt64.ofNat (if negative then signBit + magnitude else magnitude)⟩

def zero : Binary64 := ofMagnitude false 0

def infinity : Binary64 := ofMagnitude false infinite

def nan : Binary64 := ofMagnitude false 0x7ff8000000000000

def isNaN (x : Binary64) : Bool := decide (infinite < x.magnitude)

def isInfinite (x : Binary64) : Bool := decide (x.magnitude = infinite)

def isFinite (x : Binary64) : Bool := decide (x.magnitude < infinite)

def shift (x : Binary64) : Nat := x.magnitude / hiddenBit - 1

def significand (x : Binary64) : Nat := x.magnitude - x.shift * hiddenBit

def units (x : Binary64) : Nat := x.significand <<< x.shift

def one : Nat := 1 <<< 1074

/-- The exact value of a finite number in units. Both zeros have the value 0. -/
def value (x : Binary64) : Int := if x.negative then -(x.units : Int) else x.units

def rank (x : Binary64) : Int := if x.negative then -(x.magnitude : Int) else x.magnitude

/-- A NaN is neither below nor above any number. -/
def lt (x y : Binary64) : Bool := !x.isNaN && !y.isNaN && decide (x.rank < y.rank)

def le (x y : Binary64) : Bool := !x.isNaN && !y.isNaN && decide (x.rank ≤ y.rank)

def neg (x : Binary64) : Binary64 := ofMagnitude (!x.negative) x.magnitude

end Binary64

end HostProbe
