import HostProbe.Scan.Finding

namespace HostProbe.Scan

structure Summary where
  target : String
  portRange : String
  total : UInt64
  isOpen : UInt64
  closed : UInt64
  filtered : UInt64
  duration : Time.Span
  startedAt : Time.Stamp
  completedAt : Time.Stamp
  findings : List Finding
deriving DecidableEq, Repr

namespace Summary

def ofFindings (target portRange : String) (startedAt completedAt : Time.Stamp)
    (duration : Time.Span) (findings : List Finding) : Summary where
  target := target
  portRange := portRange
  total := UInt64.ofNat findings.length
  isOpen := UInt64.ofNat (findings.countP Finding.isOpen)
  closed := UInt64.ofNat (findings.countP Finding.isClosed)
  filtered := UInt64.ofNat (findings.countP Finding.isFiltered)
  duration := duration
  startedAt := startedAt
  completedAt := completedAt
  findings := findings

def openFindings (s : Summary) : List Finding := s.findings.filter Finding.isOpen

def closedFindings (s : Summary) : List Finding := s.findings.filter Finding.isClosed

def filteredFindings (s : Summary) : List Finding := s.findings.filter Finding.isFiltered

def successRate (s : Summary) : Binary64 :=
  if s.total = 0 then Binary64.zero
  else (Binary64.ofNat (s.isOpen + s.closed).toNat).div (Binary64.ofNat s.total.toNat)

def text (s : Summary) : String :=
  s!"Port scan of {s.target} ({s.portRange}): {s.isOpen.toNat} open, {s.closed.toNat} closed, " ++
    s!"{s.filtered.toNat} filtered in " ++ Decimal.fixed 2 s.duration.toBinary64 ++ "s"

def datum (s : Summary) : Datum :=
  .ofFields
    [("target", .text s.target), ("port_range", .text s.portRange),
     ("total_ports", .int s.total.toNat), ("open_ports", .int s.isOpen.toNat),
     ("closed_ports", .int s.closed.toNat), ("filtered_ports", .int s.filtered.toNat),
     ("scan_duration", s.duration.datum), ("started_at", s.startedAt.datum),
     ("completed_at", s.completedAt.datum), ("results", .list (s.findings.map Finding.datum))]

structure Parts where
  target : Option String := none
  portRange : Option String := none
  total : Option UInt64 := none
  isOpen : Option UInt64 := none
  closed : Option UInt64 := none
  filtered : Option UInt64 := none
  duration : Option Time.Span := none
  startedAt : Option Time.Stamp := none
  completedAt : Option Time.Stamp := none
  findings : Option (List Finding) := none

def readCount (d : Datum) : Reading UInt64 := (d.readNat 64).map UInt64.ofNat

open Datum in
def shape : Shape Parts where
  fields :=
    [field "target" readText fun x p => { p with target := some x },
     field "port_range" readText fun x p => { p with portRange := some x },
     field "total_ports" readCount fun x p => { p with total := some x },
     field "open_ports" readCount fun x p => { p with isOpen := some x },
     field "closed_ports" readCount fun x p => { p with closed := some x },
     field "filtered_ports" readCount fun x p => { p with filtered := some x },
     field "scan_duration" Time.Span.read fun x p => { p with duration := some x },
     field "started_at" Time.Stamp.read fun x p => { p with startedAt := some x },
     field "completed_at" Time.Stamp.read fun x p => { p with completedAt := some x },
     field "results" (readList Finding.read) fun x p => { p with findings := some x }]
  start := {}
  strict := false
  partialList := false
  surplusList := false

def read (d : Datum) : Reading Summary := do
  let p ← shape.read d
  .ok ⟨← Datum.required p.target, ← Datum.required p.portRange, ← Datum.required p.total,
    ← Datum.required p.isOpen, ← Datum.required p.closed, ← Datum.required p.filtered,
    ← Datum.required p.duration, ← Datum.required p.startedAt, ← Datum.required p.completedAt,
    ← Datum.required p.findings⟩

end Summary

end HostProbe.Scan
