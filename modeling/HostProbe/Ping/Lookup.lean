import HostProbe.Address.Endpoint
import HostProbe.Fault
import HostProbe.Trace

namespace HostProbe.Ping

inductive LookupCall where
  | create
  | bind
  | connect (endpoint : Endpoint)
  | localAddress
  | close
deriving DecidableEq, Repr

/-- How the system answers to the socket by which the source address of packets to a destination is
found. To connect it sends nothing. -/
structure Lookup where
  create : Option Fault
  bind : Option Fault
  connect : Option Fault
  localAddress : Except Fault Numeric

namespace Lookup

def ask (call : LookupCall) : Option Fault → Traced LookupCall Fault Unit
  | none => ⟨[.call call], .ok ()⟩
  | some f => ⟨[.call call], .error f⟩

def readAddress (k : Lookup) : Traced LookupCall Fault V6 :=
  ⟨[.call .localAddress], match k.localAddress with
    | .ok (.v6 source) => .ok source
    | .ok (.v4 _) => .error (.bare .addrNotAvailable)
    | .error f => .error f⟩

def endpoint (destination : V6) : Endpoint := ⟨.v6 destination, 9, 0⟩

def find (k : Lookup) (destination : V6) : Traced LookupCall Fault V6 :=
  (ask .create k.create).andThen fun _ =>
    ((ask .bind k.bind).andThen fun _ =>
      (ask (.connect (endpoint destination)) k.connect).andThen fun _ =>
        k.readAddress).closing [.call .close]

def source (k : Lookup) (destination : V6) : V6 :=
  (k.find destination).result.toOption.getD V6.loopback

def note (destination : V6) (f : Fault) : Entry :=
  .debug ("No IPv6 route to " ++ (Numeric.v6 destination).text ++ " (" ++ f.text ++
    "), using ::1 as source")

def notes (k : Lookup) (destination : V6) : List Entry :=
  match (k.find destination).result with
  | .ok _ => []
  | .error f => [note destination f]

end Lookup

end HostProbe.Ping
