import HostProbe.Time.Calendar
import HostProbe.Time.Span

namespace HostProbe.Time

def firstYear : Int := -262143

def lastYear : Int := 262142

/-- A moment of universal time, in seconds since the start of 1970. Any second may run on for
another one, as a leap second does: the nanoseconds then go on from `second`. -/
structure Stamp where
  seconds : Int
  nanos : Nat
  valid : (yearStart firstYear - epoch) * 86400 ≤ seconds ∧
    seconds < (yearStart (lastYear + 1) - epoch) * 86400 ∧ nanos < 2 * second
deriving DecidableEq, Repr

namespace Stamp

/-- Only the last second of a minute is taken to run on. -/
def of? (seconds : Int) (nanos : Nat) : Option Stamp :=
  if h : ((yearStart firstYear - epoch) * 86400 ≤ seconds ∧
      seconds < (yearStart (lastYear + 1) - epoch) * 86400 ∧ nanos < 2 * second) ∧
      (nanos < second ∨ seconds % 60 = 59) then
    some ⟨seconds, nanos, h.1⟩
  else none

def origin : Stamp := ⟨0, 0, by decide⟩

def date (t : Stamp) : Date := Date.ofDay (t.seconds / 86400 + epoch)

def ofDay (t : Stamp) : Nat := (t.seconds % 86400).toNat

end Stamp

end HostProbe.Time
