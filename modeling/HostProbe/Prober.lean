import HostProbe.Ping.Batch
import HostProbe.Scan.Sweep
import HostProbe.Settings

namespace HostProbe

structure Pinger (m : Type → Type) where
  one : Ping.Request → m (Except Ping.Failure Ping.Result)
  many : Ping.BatchRequest → m (Except Ping.Failure (List Ping.Result))

/-- An engine that scans. It may scan the well-known ports in a way of its own. -/
structure Scanner (m : Type → Type) where
  one : Scan.PortRequest → m (Except Scan.Failure Scan.Finding)
  many : Scan.ListRequest → m (Except Scan.Failure (List Scan.Finding))
  range : Scan.RangeRequest → m (Except Scan.Failure Scan.Summary)
  common : Scan.CommonRequest → m (Except Scan.Failure Scan.Summary) := fun r => range r.ranged

def Pinger.onSystem : Pinger (StateM Ping.System) := ⟨Ping.Request.run, Ping.BatchRequest.run⟩

def Scanner.onNetwork : Scanner (StateM (Scan.Network σ)) where
  one := Scan.PortRequest.run
  many := Scan.ListRequest.run
  range := Scan.RangeRequest.run

structure Prober (m : Type → Type) where
  pinger : Pinger m
  scanner : Scanner m
  settings : Settings

namespace Prober

variable {m : Type → Type} [Monad m]

def askWith (refuse : Refusal → ε) (ask : α → m (Except ε β)) : Except Refusal α → m (Except ε β)
  | .ok request => ask request
  | .error why => pure (.error (refuse why))

def askPing (ask : α → m (Except Ping.Failure β)) : Except Refusal α → m (Except Ping.Failure β) :=
  askWith .ofRefusal ask

def askScan (ask : α → m (Except Scan.Failure β)) : Except Refusal α → m (Except Scan.Failure β) :=
  askWith .ofRefusal ask

def ping (p : Prober m) (address : String) (timeout : Binary64) (packetSize : Nat)
    (hopLimit : Option Nat) : m (Except Ping.Failure Ping.Result) :=
  askPing p.pinger.one (Ping.Request.of address timeout packetSize hopLimit)

def pingAll (p : Prober m) (addresses : List String) (timeout : Binary64) (packetSize : Nat)
    (hopLimit : Option Nat) : m (Except Ping.Failure (List Ping.Result)) :=
  askPing p.pinger.many (Ping.BatchRequest.of addresses timeout packetSize hopLimit)

def scanPort (p : Prober m) (address : String) (port : Nat) (timeout : Binary64) :
    m (Except Scan.Failure Scan.Finding) :=
  askScan p.scanner.one (Scan.PortRequest.of address port timeout)

def scanPorts (p : Prober m) (address : String) (ports : List Nat) (timeout : Binary64)
    (maxConcurrent : Nat) : m (Except Scan.Failure (List Scan.Finding)) :=
  askScan p.scanner.many (Scan.ListRequest.of address ports timeout maxConcurrent)

def scanRange (p : Prober m) (address : String) (first last : Nat) (timeout : Binary64)
    (maxConcurrent : Nat) : m (Except Scan.Failure Scan.Summary) :=
  askScan p.scanner.range (Scan.RangeRequest.of address first last timeout maxConcurrent)

def scanCommon (p : Prober m) (address : String) (timeout : Binary64) (maxConcurrent : Nat) :
    m (Except Scan.Failure Scan.Summary) :=
  askScan p.scanner.common (Scan.CommonRequest.of address timeout maxConcurrent)

def pingHost (p : Prober m) (address : String) : m (Except Ping.Failure Ping.Result) :=
  p.ping address p.settings.ping.timeout p.settings.ping.packetSize p.settings.ping.hopLimit

def scanHost (p : Prober m) (address : String) : m (Except Scan.Failure Scan.Summary) :=
  p.scanCommon address p.settings.scan.timeout p.settings.scan.maxConcurrent

end Prober

end HostProbe
