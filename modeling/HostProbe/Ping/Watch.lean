import HostProbe.Address.Text
import HostProbe.Binary64.Arithmetic
import HostProbe.Icmp.Matcher
import HostProbe.Limit.Timeout
import HostProbe.Ping.Failure
import HostProbe.Trace

namespace HostProbe.Ping

structure Datagram where
  bytes : List UInt8
  sender : Option Numeric
deriving DecidableEq, Repr

/-- A round of the wait, so many nanoseconds after the request was sent, with all that its source
would answer and the clock, in seconds, when the datagram is in. -/
structure Round where
  cancelled : Bool
  elapsed : Nat
  ready : Except Fault Bool
  received : Except Fault (Option Datagram)
  clock : Binary64

inductive SourceCall where
  | wait (nanos : Nat)
  | receive (room : Nat)
deriving DecidableEq, Repr

structure Watch where
  matcher : Icmp.Matcher
  destination : Numeric
  timeout : Timeout

namespace Watch

/-- The longest single wait for a datagram, so that a cancelled wait ends soon. -/
def slice : Nat := 50000000

def room : Nat := 4096

end Watch

structure Buffer where
  bytes : List UInt8
  full : bytes.length = Watch.room
deriving DecidableEq, Repr

namespace Buffer

def empty : Buffer := ⟨List.replicate Watch.room 0, List.length_replicate⟩

/-- Receives as much of a datagram as there is room for. What stood behind it stays. -/
def write (b : Buffer) (bytes : List UInt8) : Buffer where
  bytes := bytes.take Watch.room ++ b.bytes.drop bytes.length
  full := by
    rw [List.length_append, List.length_take, List.length_drop, b.full]
    omega

end Buffer

structure Turn where
  steps : List (Step SourceCall)
  buffer : Buffer
  decision : Option (Except Failure Binary64)

namespace Watch

def wait (w : Watch) (elapsed : Nat) : Nat := min (w.timeout.nanos - elapsed) slice

/-- The time between two clock readings in milliseconds. A clock that ran backwards gives zero. -/
def roundTrip (sent received : Binary64) : Binary64 :=
  ((received.sub sent).mul (Binary64.ofNat 1000)).atLeastZero

def echoNote (sender : Numeric) (millis : Binary64) : Entry :=
  .debug ("Echo reply from " ++ sender.text ++ " in " ++ Decimal.fixed 3 millis ++ "ms")

def expiredNote (sender : Numeric) : Entry := .debug ("Time exceeded reported by " ++ sender.text)

def unreachableNote (sender : Numeric) (code : UInt8) : Entry :=
  .debug s!"Destination unreachable reported by {sender.text} (code {code.toNat})"

def unrelatedNote (sender : Numeric) (length : Nat) : Entry :=
  .debug s!"Ignoring unrelated {length} byte ICMP packet from {sender.text}"

def judge (w : Watch) (clock : Binary64) (sender : Numeric) (bytes : List UInt8) :
    Entry × Option (Except Failure Binary64) :=
  match w.matcher.classify bytes with
  | .echoReply sent =>
    (echoNote sender (roundTrip sent clock), some (.ok (roundTrip sent clock)))
  | .timeExceeded => (expiredNote sender, some (.error .timeExceeded))
  | .unreachable code =>
    (unreachableNote sender code,
      some (.error (.unreachable s!"{sender.text} reported code {code.toNat}")))
  | .unrelated => (unrelatedNote sender bytes.length, none)

def hear (w : Watch) (b : Buffer) (r : Round) : Turn :=
  let wait := Step.call (.wait (w.wait r.elapsed))
  let receive := Step.call (.receive room)
  match r.ready with
  | .error f => ⟨[wait], b, some (.error (.ofFault "Failed waiting for echo reply" f))⟩
  | .ok false => ⟨[wait], b, none⟩
  | .ok true => match r.received with
    | .error f => ⟨[wait, receive], b, some (.error (.ofFault "Failed to receive echo reply" f))⟩
    | .ok none => ⟨[wait, receive], b, none⟩
    | .ok (some d) =>
      let b := b.write d.bytes
      let (note, decision) := w.judge r.clock (d.sender.getD w.destination)
        (b.bytes.take (min d.bytes.length room))
      ⟨[wait, receive, .note note], b, decision⟩

def play (w : Watch) (b : Buffer) (r : Round) : Turn :=
  if r.cancelled then ⟨[], b, some (.error .cancelled)⟩
  else if w.timeout.nanos ≤ r.elapsed then ⟨[], b, some (.error (.timeout w.timeout.seconds))⟩
  else w.hear b r

/-- Plays rounds up to the first that decides. A wait has no last round: it goes on until one
decides, at the latest the first that starts when the time is up. Rounds of which none decides stand
for these with such a round behind them, and so come to a timeout too. -/
def run (w : Watch) : Buffer → List Round → Traced SourceCall Failure Binary64
  | _, [] => ⟨[], .error (.timeout w.timeout.seconds)⟩
  | b, r :: rs =>
    let turn := w.play b r
    match turn.decision with
    | some result => ⟨turn.steps, result⟩
    | none => (w.run turn.buffer rs).after turn.steps

def await (w : Watch) (rounds : List Round) : Traced SourceCall Failure Binary64 :=
  w.run .empty rounds

end Watch

end HostProbe.Ping
