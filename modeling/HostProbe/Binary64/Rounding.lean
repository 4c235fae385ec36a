import HostProbe.Binary64

namespace HostProbe

inductive Tie where
  | even
  | up
deriving DecidableEq, Repr

def roundDiv (tie : Tie) (num den : Nat) : Nat :=
  let low := num / den
  let twice := 2 * (num % den)
  if twice < den then low
  else if den < twice then low + 1
  else match tie with
    | .up => low + 1
    | .even => if low % 2 = 0 then low else low + 1

namespace Binary64

def nearest (num den : Nat) : Nat :=
  let shift := Nat.log2 (num * one / den) - 52
  min (shift * hiddenBit + roundDiv .even (num * one) (den <<< shift)) infinite

def ofRatio (negative : Bool) (num den : Nat) : Binary64 :=
  ofMagnitude negative (nearest num den)

def ofNat (n : Nat) : Binary64 := ofRatio false n 1

def ofInt (n : Int) : Binary64 := ofRatio (decide (n < 0)) n.natAbs 1

/-- The number nearest to `digits * 10 ^ exponent`. Beyond the decimal exponents of binary64 the
power of ten is not computed. -/
def ofDecimal (negative : Bool) (digits : Nat) (exponent : Int) : Binary64 :=
  let top := exponent + (Nat.toDigits 10 digits).length
  if digits = 0 ∨ top < -400 then ofMagnitude negative 0
  else if 400 < top then ofMagnitude negative infinite
  else if exponent < 0 then ofRatio negative digits (Nat.pow 10 exponent.natAbs)
  else ofRatio negative (digits * Nat.pow 10 exponent.natAbs) 1

end Binary64

end HostProbe
