import HostProbe.Binary64.Rounding

namespace HostProbe.Binary64

/-- The number nearest to a value in units; a sum that vanishes takes the given sign. -/
def ofUnits (zeroNegative : Bool) (value : Int) : Binary64 :=
  if value = 0 then ofMagnitude zeroNegative 0 else ofRatio (decide (value < 0)) value.natAbs one

def add (x y : Binary64) : Binary64 :=
  if x.isNaN || y.isNaN then nan
  else if x.isInfinite then
    if y.isInfinite && x.negative != y.negative then nan else x
  else if y.isInfinite then y
  else ofUnits (x.negative && y.negative) (x.value + y.value)

def sub (x y : Binary64) : Binary64 := add x y.neg

def mul (x y : Binary64) : Binary64 :=
  let sign := x.negative != y.negative
  if x.isNaN || y.isNaN then nan
  else if x.isInfinite || y.isInfinite then
    if x.magnitude = 0 ∨ y.magnitude = 0 then nan else ofMagnitude sign infinite
  else ofRatio sign (x.units * y.units) (one * one)

def div (x y : Binary64) : Binary64 :=
  let sign := x.negative != y.negative
  if x.isNaN || y.isNaN then nan
  else if x.isInfinite then if y.isInfinite then nan else ofMagnitude sign infinite
  else if y.isInfinite then ofMagnitude sign 0
  else if y.magnitude = 0 then if x.magnitude = 0 then nan else ofMagnitude sign infinite
  else ofRatio sign x.units y.units

/-- The number itself where it is above zero, and zero for all others, a NaN among them. -/
def atLeastZero (x : Binary64) : Binary64 := if lt zero x then x else zero

end HostProbe.Binary64
