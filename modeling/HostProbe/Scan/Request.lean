import HostProbe.Address
import HostProbe.Limit.Timeout
import HostProbe.Port.Range

namespace HostProbe.Scan

structure PortRequest where
  target : Address
  port : Port
  timeout : Timeout
deriving DecidableEq, Repr

def PortRequest.of (address : String) (port : Nat) (timeout : Binary64) :
    Except Refusal PortRequest := do
  let target ← Address.parse address
  let port ← Port.of port
  let timeout ← Timeout.of timeout
  return ⟨target, port, timeout⟩

structure ListRequest where
  target : Address
  ports : List Port
  timeout : Timeout
  maxConcurrent : Nat
deriving DecidableEq, Repr

def ListRequest.of (address : String) (ports : List Nat) (timeout : Binary64) (maxConcurrent : Nat) :
    Except Refusal ListRequest := do
  let target ← Address.parse address
  let ports ← ports.mapM Port.of
  let timeout ← Timeout.of timeout
  return ⟨target, ports, timeout, maxConcurrent⟩

structure RangeRequest where
  target : Address
  range : PortRange
  timeout : Timeout
  maxConcurrent : Nat
deriving DecidableEq, Repr

namespace RangeRequest

def of (address : String) (first last : Nat) (timeout : Binary64) (maxConcurrent : Nat) :
    Except Refusal RangeRequest := do
  let target ← Address.parse address
  let range ← PortRange.ofNumbers first last
  let timeout ← Timeout.of timeout
  return ⟨target, range, timeout, maxConcurrent⟩

def list (r : RangeRequest) : ListRequest := ⟨r.target, r.range.ports, r.timeout, r.maxConcurrent⟩

end RangeRequest

structure CommonRequest where
  target : Address
  timeout : Timeout
  maxConcurrent : Nat
deriving DecidableEq, Repr

namespace CommonRequest

def of (address : String) (timeout : Binary64) (maxConcurrent : Nat) :
    Except Refusal CommonRequest := do
  let target ← Address.parse address
  let timeout ← Timeout.of timeout
  return ⟨target, timeout, maxConcurrent⟩

def ranged (r : CommonRequest) : RangeRequest := ⟨r.target, .common, r.timeout, r.maxConcurrent⟩

end CommonRequest

end HostProbe.Scan
