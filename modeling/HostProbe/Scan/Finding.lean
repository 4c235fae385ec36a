import HostProbe.Port.Service
import HostProbe.Scan.Status
import HostProbe.Time.Stamp.Text

namespace HostProbe.Scan

structure Finding where
  port : Port
  status : Status
  responseTime : Option Time.Span
  service : Option String
  errorMessage : Option String
  scannedAt : Time.Stamp
deriving DecidableEq, Repr

namespace Finding

def of (port : Port) (status : Status) (scannedAt : Time.Stamp) : Finding :=
  ⟨port, status, none, none, none, scannedAt⟩

def isOpen (f : Finding) : Bool := f.status.countsOpen

def isClosed (f : Finding) : Bool := f.status.countsClosed

def isFiltered (f : Finding) : Bool := f.status.countsFiltered

def text (f : Finding) : String :=
  let service := match f.service with
    | some s => " (" ++ s ++ ")"
    | none => ""
  let time := match f.responseTime with
    | some t => " " ++ Decimal.fixed 3 t.toBinary64 ++ "s"
    | none => ""
  f.port.text ++ "/" ++ f.status.name ++ service ++ time

def datum (f : Finding) : Datum :=
  .ofFields
    [("port", f.port.datum), ("status", f.status.datum),
     ("response_time", .option Time.Span.datum f.responseTime),
     ("service", .option .text f.service), ("error_message", .option .text f.errorMessage),
     ("scanned_at", f.scannedAt.datum)]

structure Parts where
  port : Option Port := none
  status : Option Status := none
  responseTime : Option Time.Span := none
  service : Option String := none
  errorMessage : Option String := none
  scannedAt : Option Time.Stamp := none

open Datum in
def shape : Shape Parts where
  fields :=
    [field "port" Port.read fun x p => { p with port := some x },
     field "status" Status.read fun x p => { p with status := some x },
     field "response_time" (readOption Time.Span.read) fun x p => { p with responseTime := x },
     field "service" (readOption readText) fun x p => { p with service := x },
     field "error_message" (readOption readText) fun x p => { p with errorMessage := x },
     field "scanned_at" Time.Stamp.read fun x p => { p with scannedAt := some x }]
  start := {}
  strict := false
  partialList := false
  surplusList := false

def read (d : Datum) : Reading Finding := do
  let p ← shape.read d
  .ok ⟨← Datum.required p.port, ← Datum.required p.status, p.responseTime, p.service,
    p.errorMessage, ← Datum.required p.scannedAt⟩

end Finding

end HostProbe.Scan
