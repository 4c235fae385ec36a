import HostProbe.Icmp.Request
import HostProbe.Ping.Request
import HostProbe.Ping.Socket

namespace HostProbe.Ping

structure SystemRound where
  cancelled : Bool
  elapsed : Nat
  poll : Except Fault Bool
  receive : Except Fault Datagram
  clock : Binary64

def SystemRound.round (r : SystemRound) : Round :=
  ⟨r.cancelled, r.elapsed, Socket.readable r.poll, Socket.received r.receive, r.clock⟩

/-- All that the system answers to a probe. The rounds of its wait may hang on the version of the
socket and on the packet that was sent. -/
structure Conditions where
  opening : Opening
  hops : Option Fault
  send : Option Fault
  localAddress : Except Fault (Option UInt16)
  identifier : UInt16
  lookup : Lookup
  clock : Binary64
  rounds : Version → List UInt8 → List SystemRound

namespace Request

def version (r : Request) : Version := r.destination.version

def route (r : Request) (k : Conditions) : Option (V6 × V6) :=
  match r.destination.numeric with
  | .v4 _ => none
  | .v6 destination => some (k.lookup.source destination, destination)

def echo (r : Request) (k : Conditions) : Icmp.Request :=
  ⟨r.version, k.identifier, 0, r.packetSize.bytes, k.clock, r.route k⟩

def packet (r : Request) (k : Conditions) : List UInt8 := (r.echo k).packet

def hopsNote (f : Fault) : Entry :=
  .warn ("TTL option unsupported (" ++ f.text ++ "), probing without it")

def sentNote (destination : Numeric) (identifier : UInt16) (length : Nat) : Entry :=
  .debug ("Sent echo request to " ++ destination.text ++ " (id 0x" ++
    String.ofList (Text.hexPadded 4 identifier.toNat) ++ s!", {length} bytes)")

/-- Sets the hop limit if one is asked for. A system that refuses is left with its own. -/
def limitHops (r : Request) (k : Conditions) : List (Step Call) :=
  match r.hops with
  | none => []
  | some n => .call (.setHops r.version n) :: match k.hops with
    | none => []
    | some f => [.note (hopsNote f)]

def findRoute (r : Request) (k : Conditions) : List (Step Call) :=
  match r.destination.numeric with
  | .v4 _ => []
  | .v6 destination =>
    (k.lookup.find destination).steps.map (Step.map .lookup) ++
      (k.lookup.notes destination).map .note

def transmit (r : Request) (k : Conditions) : Traced Call Failure Unit :=
  let packet := r.packet k
  let send := Step.call (.send packet r.destination.numeric)
  match k.send with
  | some f => ⟨[send], .error (.ofFault "Failed to send echo request" f)⟩
  | none => ⟨[send, .note (sentNote r.destination.numeric k.identifier packet.length)], .ok ()⟩

def askPort (k : Conditions) (mode : Icmp.Mode) : List (Step Call) × Option UInt16 :=
  match mode with
  | .raw => ([], none)
  | .datagram => ([.call .localAddress], Socket.localPort k.localAddress)

def matcher (r : Request) (k : Conditions) (s : Socket) : Icmp.Matcher :=
  let m := Icmp.Matcher.of r.version s.layout k.identifier 0
  match (askPort k s.mode).2 with
  | none => m
  | some port => m.alsoAccept port

def watch (r : Request) (k : Conditions) (s : Socket) : Watch :=
  ⟨r.matcher k s, r.destination.numeric, r.timeout⟩

def listen (r : Request) (k : Conditions) (s : Socket) : Traced Call Failure Binary64 :=
  let waited := (r.watch k s).await ((k.rounds r.version (r.packet k)).map SystemRound.round)
  ⟨(askPort k s.mode).1 ++ waited.steps.map (Step.map Socket.callOf), waited.result⟩

def converse (r : Request) (k : Conditions) (s : Socket) : Traced Call Failure Binary64 :=
  (((r.transmit k).andThen fun _ => r.listen k s).after (r.limitHops k ++ r.findRoute k)).closing
    [.call .close]

def probe (r : Request) (k : Conditions) : Traced Call Failure Binary64 :=
  (Socket.ofOpening k.opening r.version).andThen (r.converse k)

def ping (r : Request) (k : Conditions) : Except Failure Result := r.conclude (r.probe k).result

end Request

end HostProbe.Ping
