import HostProbe.Address.Endpoint
import HostProbe.Fault
import HostProbe.Journal
import HostProbe.Port.Service
import HostProbe.Scan.Failure
import HostProbe.Scan.Finding
import HostProbe.Scan.Request

namespace HostProbe.Scan

structure Attempt where
  duration : Nat
  answer : Except Fault Unit

/-- Tries to connect to an endpoint within so many nanoseconds. The answer may hang on a state,
which an attempt may change. -/
abbrev Connector (σ : Type) := σ → Endpoint → Nat → Attempt × σ

structure Connection where
  endpoint : Endpoint
  timeout : Nat
  start : Nat
  attempt : Attempt

namespace Connection

def finish (c : Connection) : Nat := c.start + c.attempt.duration

/-- What it says about the port alone. A connection that was turned down shows a closed port; any
other fault is a failure. -/
def judge (c : Connection) (target : Address) (port : Port) (moment : Time.Stamp) :
    Except Failure Finding :=
  let span := Time.Span.ofNanos c.attempt.duration
  match c.attempt.answer with
  | .ok () =>
    .ok { Finding.of port .isOpen moment with responseTime := some span, service := port.service? }
  | .error f =>
    if f.isRefusal then .ok { Finding.of port .closed moment with responseTime := some span }
    else .error (.ofFault target.text port.number f)

def notes (c : Connection) : List Entry :=
  match c.attempt.answer with
  | .ok () => [.debug (c.endpoint.text ++ " open")]
  | .error f => if f.isRefusal then [.debug (c.endpoint.text ++ " closed")] else []

/-- What it says about the port in a scan of many: a failure that concerns the port makes it
filtered. -/
def judgeAmong (c : Connection) (target : Address) (port : Port) (moment : Time.Stamp) :
    Except Failure Finding :=
  match c.judge target port moment with
  | .ok finding => .ok finding
  | .error e =>
    if e.isPerPort then
      .ok { Finding.of port .filtered moment with
        responseTime := some (Time.Span.ofNanos c.attempt.duration), errorMessage := some e.message }
    else .error e

def filteredNotes (target : Address) (port : Port) (outcome : Except Failure Finding) : List Entry :=
  match outcome with
  | .ok _ => []
  | .error e =>
    if e.isPerPort then [.debug (target.text ++ ":" ++ port.text ++ " filtered: " ++ e.message)]
    else []

def notesAmong (c : Connection) (target : Address) (port : Port) (moment : Time.Stamp) : List Entry :=
  c.notes ++ filteredNotes target port (c.judge target port moment)

end Connection

/-- The network that scans run on and what was done on it, the latest first, with the most attempts
that were under way at once. -/
structure Network (σ : Type) where
  connect : Connector σ
  state : σ
  clock : Nat
  moment : Nat → Time.Stamp
  connections : List Connection
  peak : Nat
  journal : List Entry

namespace Network

def start (n : Network σ) (endpoint : Endpoint) (timeout others : Nat) : Connection × Network σ :=
  let (attempt, state) := n.connect n.state endpoint timeout
  let c : Connection := ⟨endpoint, timeout, n.clock, attempt⟩
  (c, { n with state, connections := c :: n.connections, peak := max n.peak (others + 1) })

def note (n : Network σ) (entries : List Entry) : Network σ :=
  { n with journal := entries.reverse ++ n.journal }

def advance (n : Network σ) (clock : Nat) : Network σ := { n with clock }

end Network

def PortRequest.run (r : PortRequest) (n : Network σ) : Except Failure Finding × Network σ :=
  let moment := n.moment n.clock
  let (c, n) := n.start (.of r.target.numeric r.port.number) r.timeout.nanos 0
  (c.judge r.target r.port moment, (n.advance c.finish).note c.notes)

end HostProbe.Scan
