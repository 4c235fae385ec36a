import HostProbe.Time.Span

namespace HostProbe

/-- A NaN is not above zero, so it is no timeout. -/
def Timeout.admits (x : Binary64) : Bool :=
  Binary64.lt Binary64.zero x && Binary64.le x (Binary64.ofNat 300)

structure Timeout where
  seconds : Binary64
  admitted : Timeout.admits seconds = true
deriving DecidableEq, Repr

namespace Timeout

def of (seconds : Binary64) : Except Refusal Timeout :=
  if h : admits seconds then .ok ⟨seconds, h⟩ else .error (.timeout seconds)

def nanos (t : Timeout) : Nat := roundDiv .even (t.seconds.units * 1000000000) Binary64.one

def span (t : Timeout) : Except Time.Span.Misfit Time.Span := Time.Span.ofSeconds t.seconds

def text (t : Timeout) : String := Decimal.message t.seconds ++ " s"

def datum (t : Timeout) : Datum := .real t.seconds

def read (d : Datum) : Reading Timeout := do
  Reading.ofRefusal (of (← d.readReal))

end Timeout

end HostProbe
