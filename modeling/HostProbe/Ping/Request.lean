import HostProbe.Address
import HostProbe.Limit.HopLimit
import HostProbe.Limit.PacketSize
import HostProbe.Limit.Timeout
import HostProbe.Ping.Result

namespace HostProbe.Ping

structure Request where
  destination : Address
  timeout : Timeout
  packetSize : PacketSize
  hopLimit : Option HopLimit
deriving DecidableEq, Repr

namespace Request

def of (address : String) (timeout : Binary64) (packetSize : Nat) (hopLimit : Option Nat) :
    Except Refusal Request := do
  let destination ← Address.parse address
  let timeout ← Timeout.of timeout
  let packetSize ← PacketSize.of packetSize
  let hopLimit ← HopLimit.ofOption hopLimit
  return ⟨destination, timeout, packetSize, hopLimit⟩

def hops (r : Request) : Option UInt8 := r.hopLimit.map HopLimit.byte

/-- The result of a request with a given round trip in milliseconds. A round trip that is no
response time is a network failure. -/
def conclude (r : Request) : Except Failure Binary64 → Except Failure Result
  | .error e => .error e
  | .ok millis => match Result.answered millis r.hops (some r.packetSize.word) with
    | .ok result => .ok result
    | .error why => .error (.network why.message)

def failed (r : Request) (e : Failure) : Result :=
  Result.ofFailure e r.hops (some r.packetSize.word)

end Request

structure BatchRequest where
  destinations : List Address
  timeout : Timeout
  packetSize : PacketSize
  hopLimit : Option HopLimit
deriving DecidableEq, Repr

namespace BatchRequest

/-- All addresses are checked, in their order, before anything else. -/
def of (addresses : List String) (timeout : Binary64) (packetSize : Nat) (hopLimit : Option Nat) :
    Except Refusal BatchRequest := do
  let destinations ← addresses.mapM Address.parse
  let timeout ← Timeout.of timeout
  let packetSize ← PacketSize.of packetSize
  let hopLimit ← HopLimit.ofOption hopLimit
  return ⟨destinations, timeout, packetSize, hopLimit⟩

def each (b : BatchRequest) : List Request :=
  b.destinations.map fun d => ⟨d, b.timeout, b.packetSize, b.hopLimit⟩

end BatchRequest

end HostProbe.Ping
