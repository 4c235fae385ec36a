import HostProbe.Datum.Record

namespace HostProbe.Scan

inductive Status where
  | isOpen
  | closed
  | filtered
  | unfiltered
  | openFiltered
  | closedFiltered
deriving DecidableEq, Repr

namespace Status

def name : Status → String
  | .isOpen => "open"
  | .closed => "closed"
  | .filtered => "filtered"
  | .unfiltered => "unfiltered"
  | .openFiltered => "open_filtered"
  | .closedFiltered => "closed_filtered"

def names : List (String × Status) :=
  [.isOpen, .closed, .filtered, .unfiltered, .openFiltered, .closedFiltered].map fun s => (s.name, s)

def countsOpen (s : Status) : Bool := s == .isOpen

def countsClosed (s : Status) : Bool := s == .closed

def countsFiltered (s : Status) : Bool := !s.countsOpen && !s.countsClosed

def datum (s : Status) : Datum := .text s.name

def read (d : Datum) : Reading Status := d.readName names

end Status

end HostProbe.Scan
