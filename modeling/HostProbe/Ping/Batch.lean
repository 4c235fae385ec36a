import HostProbe.Fanout
import HostProbe.Ping.Probe

namespace HostProbe.Ping

def Request.contribute (r : Request) :
    Except Failure Result → List Entry × Except Failure Result
  | .ok result => ([], .ok result)
  | .error e =>
    if e.isFatal then ([], .error e)
    else ([.debug ("Ping to " ++ r.destination.text ++ " failed: " ++ e.message)], .ok (r.failed e))

namespace BatchRequest

def note (b : BatchRequest) : Entry := .info s!"Pinging {b.destinations.length} destinations"

def contributions (pings : List (Nat × Request × Except Failure Result)) :
    List (Nat × Except Failure Result) :=
  pings.map fun (position, r, outcome) => (position, (r.contribute outcome).2)

def settle (b : BatchRequest) (pings : List (Nat × Request × Except Failure Result)) :
    Except Failure (List Result) :=
  Fanout.settle b.destinations.length {} (contributions pings)

def notes (b : BatchRequest) (pings : List (Nat × Request × Except Failure Result)) : List Entry :=
  (pings.take (Fanout.awaited b.destinations.length {} (contributions pings))).flatMap
    fun (_, r, outcome) => (r.contribute outcome).1

def pings (b : BatchRequest) (k : Nat → Conditions) :
    List (Nat × Request × Except Failure Result) :=
  b.each.mapIdx fun i r => (i, r, r.ping (k i))

def traces (b : BatchRequest) (k : Nat → Conditions) : List (List (Step Call)) :=
  b.each.mapIdx fun i r => (r.probe (k i)).steps

end BatchRequest

/-- The system that pings run on: the conditions that each probe will meet, counted from 0, and what
was done on it. -/
structure System where
  conditions : Nat → Conditions
  traces : List (List (Step Call)) := []
  journal : List Entry := []

def Request.run (r : Request) (s : System) : Except Failure Result × System :=
  let k := s.conditions s.traces.length
  (r.ping k, { s with traces := s.traces ++ [(r.probe k).steps] })

def BatchRequest.run (b : BatchRequest) (s : System) : Except Failure (List Result) × System :=
  let k := fun i => s.conditions (s.traces.length + i)
  (b.settle (b.pings k),
    { s with
      traces := s.traces ++ b.traces k
      journal := s.journal ++ b.note :: b.notes (b.pings k) })

end HostProbe.Ping
