import HostProbe.Ping.Lookup
import HostProbe.Ping.Watch

namespace HostProbe.Ping

inductive Call where
  | create (version : Version) (mode : Icmp.Mode)
  | setNonblocking
  | setHops (version : Version) (hops : UInt8)
  | lookup (call : LookupCall)
  | send (packet : List UInt8) (destination : Numeric)
  | localAddress
  | poll (millis : Nat)
  | receive (room : Nat)
  | close
deriving DecidableEq, Repr

structure Socket where
  version : Version
  mode : Icmp.Mode
  layout : Icmp.Layout
deriving DecidableEq, Repr

structure Opening where
  platform : Icmp.Platform
  raw : Option Fault
  datagram : Option Fault
  nonblocking : Option Fault

namespace Socket

def refusedNote (version : Version) (f : Fault) : Entry :=
  .warn (s!"Raw ICMPv{version.number} socket refused (" ++ f.text ++
    "), trying datagram ICMP socket")

def openedNote (s : Socket) : Entry :=
  .debug s!"Opened ICMPv{s.version.number} {s.mode.name} socket, layout {s.layout.name}"

def create (k : Opening) (version : Version) : Traced Call Failure Icmp.Mode :=
  let raw := Step.call (.create version .raw)
  match k.raw with
  | none => ⟨[raw], .ok .raw⟩
  | some f =>
    if f.isDenied then
      let steps := [raw, .note (refusedNote version f), .call (.create version .datagram)]
      match k.datagram with
      | none => ⟨steps, .ok .datagram⟩
      | some g =>
        ⟨steps, .error (.permission ("raw socket: " ++ f.text ++ "; datagram socket: " ++ g.text))⟩
    else ⟨[raw], .error (.ofFault "Failed to create ICMP socket" f)⟩

def prepare (k : Opening) (version : Version) (mode : Icmp.Mode) : Traced Call Failure Socket :=
  let socket : Socket := ⟨version, mode, .of k.platform mode version⟩
  match k.nonblocking with
  | none => ⟨[.call .setNonblocking, .note socket.openedNote], .ok socket⟩
  | some f =>
    ⟨[.call .setNonblocking, .call .close], .error (.ofFault "Failed to set non-blocking mode" f)⟩

def ofOpening (k : Opening) (version : Version) : Traced Call Failure Socket :=
  (create k version).andThen (prepare k version)

/-- The milliseconds that a wait takes with a system that counts those: up from whole microseconds.
-/
def pollMillis (nanos : Nat) : Nat := min ((nanos / 1000 + 999) / 1000) 0x7fffffff

/-- Whether a datagram is there. A wait that a signal ended finds none. -/
def readable : Except Fault Bool → Except Fault Bool
  | .ok b => .ok b
  | .error f => if f.kind = .interrupted then .ok false else .error f

def received : Except Fault Datagram → Except Fault (Option Datagram)
  | .ok d => .ok (some d)
  | .error f => if f.isNothing then .ok none else .error f

/-- The local port from the local address, which may fail to be an address with a port. Port 0 is
none. -/
def localPort : Except Fault (Option UInt16) → Option UInt16
  | .ok (some port) => if port = 0 then none else some port
  | _ => none

def callOf : SourceCall → Call
  | .wait nanos => .poll (pollMillis nanos)
  | .receive room => .receive room

end Socket

end HostProbe.Ping
