import HostProbe.Binary64.Rounding

namespace HostProbe.Decimal

structure Scaled where
  digits : Nat
  exponent : Int
deriving DecidableEq, Repr

/-- The reals that round to a number, as numerators over `scale`. The ends belong to it iff the
significand is even. Below a power of two the neighbour is half as far. -/
structure Interval where
  low : Nat
  center : Nat
  high : Nat
  closed : Bool

def scale : Nat := 4 * Binary64.one

def Interval.of (x : Binary64) : Interval :=
  let m := x.significand
  let power := 1 <<< x.shift
  let below := if m = Binary64.hiddenBit ∧ 0 < x.shift then 1 else 2
  { low := (4 * m - below) * power
    center := 4 * m * power
    high := (4 * m + 2) * power
    closed := m % 2 = 0 }

def Interval.holds (i : Interval) (n : Nat) : Bool :=
  if i.closed then decide (i.low ≤ n ∧ n ≤ i.high) else decide (i.low < n ∧ n < i.high)

def leading (num den : Nat) : Int :=
  if den ≤ num then (Nat.toDigits 10 (num / den)).length - 1
  else -(Nat.toDigits 10 ((den - 1) / num)).length

def Interval.onGrid (i : Interval) (tie : Tie) (exponent : Int) : Option Nat :=
  let up := Nat.pow 10 (-exponent).toNat
  let step := scale * Nat.pow 10 exponent.toNat
  let i : Interval :=
    { low := i.low * up, center := i.center * up, high := i.high * up, closed := i.closed }
  let floor := i.center / step
  let below := i.holds (floor * step)
  let above := i.holds ((floor + 1) * step)
  if below && above then some (roundDiv tie i.center step)
  else if below then some floor
  else if above then some (floor + 1)
  else none

def Interval.search (i : Interval) (tie : Tie) : Nat → Int → Scaled
  | 0, exponent => ⟨i.center * Nat.pow 10 (-exponent).toNat / (scale * Nat.pow 10 exponent.toNat), exponent⟩
  | fuel + 1, exponent =>
    match i.onGrid tie exponent with
    | some digits => ⟨digits, exponent⟩
    | none => i.search tie fuel (exponent - 1)

def shortest (tie : Tie) (x : Binary64) : Scaled :=
  let i := Interval.of x
  i.search tie 17 (leading i.center scale)

end HostProbe.Decimal
