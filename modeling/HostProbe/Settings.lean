import HostProbe.Limit.HopLimit
import HostProbe.Limit.PacketSize
import HostProbe.Limit.Timeout

namespace HostProbe

structure PingDefaults where
  timeout : Binary64
  packetSize : Nat
  hopLimit : Option Nat
deriving DecidableEq, Repr

structure ScanDefaults where
  timeout : Binary64
  maxConcurrent : Nat
deriving DecidableEq, Repr

structure Settings where
  ping : PingDefaults
  scan : ScanDefaults
deriving DecidableEq, Repr

def PingDefaults.builtin : PingDefaults := ⟨Binary64.ofNat 4, 56, none⟩

def ScanDefaults.builtin : ScanDefaults := ⟨Binary64.ofNat 1, 100⟩

namespace Settings

def builtin : Settings := ⟨PingDefaults.builtin, ScanDefaults.builtin⟩

def withPingTimeout (s : Settings) (seconds : Binary64) : Settings :=
  { s with ping := { s.ping with timeout := seconds } }

def withPacketSize (s : Settings) (bytes : Nat) : Settings :=
  { s with ping := { s.ping with packetSize := bytes } }

def withHopLimit (s : Settings) (hops : Option Nat) : Settings :=
  { s with ping := { s.ping with hopLimit := hops } }

def withScanTimeout (s : Settings) (seconds : Binary64) : Settings :=
  { s with scan := { s.scan with timeout := seconds } }

def withMaxConcurrent (s : Settings) (limit : Nat) : Settings :=
  { s with scan := { s.scan with maxConcurrent := limit } }

def pingTimeout (s : Settings) : Except Refusal Timeout := Timeout.of s.ping.timeout

def packetSize (s : Settings) : Except Refusal PacketSize := PacketSize.of s.ping.packetSize

def hopLimit (s : Settings) : Except Refusal (Option HopLimit) := HopLimit.ofOption s.ping.hopLimit

def scanTimeout (s : Settings) : Except Refusal Timeout := Timeout.of s.scan.timeout

def validate (s : Settings) : Except Refusal Unit := do
  let _ ← s.pingTimeout
  let _ ← s.packetSize
  let _ ← s.hopLimit
  let _ ← s.scanTimeout
  if s.scan.maxConcurrent = 0 then .error (.concurrency 0) else .ok ()

end Settings

def PingDefaults.datum (p : PingDefaults) : Datum :=
  .ofFields
    [("timeout", .real p.timeout), ("packet_size", .int p.packetSize),
     ("ttl", .option (fun n => .int n) p.hopLimit)]

def ScanDefaults.datum (p : ScanDefaults) : Datum :=
  .ofFields [("timeout", .real p.timeout), ("max_concurrent", .int p.maxConcurrent)]

def Settings.datum (s : Settings) : Datum :=
  .ofFields [("ping", s.ping.datum), ("scan", s.scan.datum)]

/-- Settings that a datum does not give keep their built-in values. Whether a list may have more
items than there are settings depends on the kind of text that the datum comes from. -/
def PingDefaults.shape (surplus : Bool) : Datum.Shape PingDefaults where
  fields :=
    [Datum.field "timeout" Datum.readReal fun x p => { p with timeout := x },
     Datum.field "packet_size" (Datum.readNat 32) fun n p => { p with packetSize := n },
     Datum.field "ttl" (Datum.readOption (Datum.readNat 32)) fun n p => { p with hopLimit := n }]
  start := builtin
  strict := false
  partialList := true
  surplusList := surplus

def PingDefaults.read (surplus : Bool) : Datum → Reading PingDefaults := (shape surplus).read

def ScanDefaults.shape (surplus : Bool) : Datum.Shape ScanDefaults where
  fields :=
    [Datum.field "timeout" Datum.readReal fun x p => { p with timeout := x },
     Datum.field "max_concurrent" (Datum.readNat 64) fun n p => { p with maxConcurrent := n }]
  start := builtin
  strict := false
  partialList := true
  surplusList := surplus

def ScanDefaults.read (surplus : Bool) : Datum → Reading ScanDefaults := (shape surplus).read

def Settings.shape (surplus : Bool) : Datum.Shape Settings where
  fields :=
    [Datum.field "ping" (PingDefaults.read surplus) fun x s => { s with ping := x },
     Datum.field "scan" (ScanDefaults.read surplus) fun x s => { s with scan := x }]
  start := builtin
  strict := false
  partialList := true
  surplusList := surplus

def Settings.read (surplus : Bool) : Datum → Reading Settings := (shape surplus).read

end HostProbe
