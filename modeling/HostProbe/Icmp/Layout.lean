import HostProbe.Address.Numeric
import HostProbe.Datum.Record

namespace HostProbe.Icmp

inductive Platform where
  | linux
  | macos
  | windows
  | otherUnix
deriving DecidableEq, Repr

inductive Mode where
  | raw
  | datagram
deriving DecidableEq, Repr

inductive Layout where
  | bare
  | ipv4Header
deriving DecidableEq, Repr

def Platform.name : Platform → String
  | .linux => "Linux"
  | .macos => "Macos"
  | .windows => "Windows"
  | .otherUnix => "OtherUnix"

def Mode.name : Mode → String
  | .raw => "Raw"
  | .datagram => "Datagram"

def Layout.name : Layout → String
  | .bare => "Bare"
  | .ipv4Header => "Ipv4Header"

def Platform.names : List (String × Platform) :=
  [.linux, .macos, .windows, .otherUnix].map fun s => (s.name, s)

def Mode.names : List (String × Mode) := [.raw, .datagram].map fun m => (m.name, m)

def Layout.names : List (String × Layout) := [.bare, .ipv4Header].map fun l => (l.name, l)

namespace Layout

/-- ICMPv6 sockets never deliver the IPv6 header, and of the IPv4 sockets only the unprivileged ones
of Linux leave the header out. -/
def of (platform : Platform) : Mode → Version → Layout
  | _, .v6 => .bare
  | .raw, .v4 => .ipv4Header
  | .datagram, .v4 => match platform with
    | .linux => .bare
    | _ => .ipv4Header

/-- The length of the IPv4 header that a datagram starts with: 0 when its first nibble is not 4 or
it is shorter than any header, and none when the header claims to be shorter than the fixed part. -/
def headerLength? (data : List UInt8) : Option Nat :=
  match data with
  | [] => some 0
  | first :: _ =>
    if 20 ≤ data.length ∧ first.toNat / 16 = 4 then
      if first.toNat % 16 < 5 then none else some (4 * (first.toNat % 16))
    else some 0

def offset? (layout : Layout) (data : List UInt8) : Option Nat := do
  let start ← match layout with
    | .bare => some 0
    | .ipv4Header => headerLength? data
  if start + 8 ≤ data.length then some start else none

end Layout

end HostProbe.Icmp
