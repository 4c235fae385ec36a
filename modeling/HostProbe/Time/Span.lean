import HostProbe.Binary64.Arithmetic
import HostProbe.Datum.Record

namespace HostProbe.Time

def second : Nat := 1000000000

def spanLimit : Nat := 0x10000000000000000 * second

structure Span where
  nanos : Nat
  fits : nanos < spanLimit
deriving DecidableEq, Repr

namespace Span

def seconds (s : Span) : Nat := s.nanos / second

def fraction (s : Span) : Nat := s.nanos % second

/-- The span of so many seconds and nanoseconds; whole seconds among the latter are carried. -/
def of? (seconds nanos : Nat) : Option Span :=
  if h : seconds * second + nanos < spanLimit then some ⟨seconds * second + nanos, h⟩ else none

def zero : Span := ⟨0, by decide⟩

def ofNanos (nanos : Nat) : Span :=
  if h : nanos < spanLimit then ⟨nanos, h⟩ else ⟨spanLimit - 1, by decide⟩

inductive Misfit where
  | negative
  | excessive
deriving DecidableEq, Repr

/-- The span of a number of seconds: their exact value in nanoseconds rounded to the nearest, ties
to even. -/
def ofSeconds (x : Binary64) : Except Misfit Span :=
  if Binary64.lt x Binary64.zero then .error .negative
  else if x.isFinite then
    let nanos := roundDiv .even (x.units * second) Binary64.one
    if h : nanos < spanLimit then .ok ⟨nanos, h⟩ else .error .excessive
  else .error .excessive

/-- In seconds, whole seconds and fraction rounded apart. -/
def toBinary64 (s : Span) : Binary64 :=
  (Binary64.ofNat s.seconds).add ((Binary64.ofNat s.fraction).div (Binary64.ofNat second))

def datum (s : Span) : Datum :=
  .ofFields [("secs", .int s.seconds), ("nanos", .int s.fraction)]

def shape : Datum.Shape (Option Nat × Option Nat) where
  fields :=
    [Datum.field "secs" (Datum.readNat 64) fun n p => (some n, p.2),
     Datum.field "nanos" (Datum.readNat 32) fun n p => (p.1, some n)]
  start := (none, none)
  strict := true
  partialList := false
  surplusList := false

def read (d : Datum) : Reading Span := do
  let (seconds, nanos) ← shape.read d
  Datum.required (of? (← Datum.required seconds) (← Datum.required nanos))

end Span

end HostProbe.Time
