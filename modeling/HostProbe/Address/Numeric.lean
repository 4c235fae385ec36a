import HostProbe.Bytes

namespace HostProbe

inductive Version where
  | v4
  | v6
deriving DecidableEq, Repr

def Version.number : Version → Nat
  | .v4 => 4
  | .v6 => 6

structure V4 where
  a : UInt8
  b : UInt8
  c : UInt8
  d : UInt8
deriving DecidableEq, Repr

structure V6 where
  g0 : UInt16
  g1 : UInt16
  g2 : UInt16
  g3 : UInt16
  g4 : UInt16
  g5 : UInt16
  g6 : UInt16
  g7 : UInt16
deriving DecidableEq, Repr

namespace V4

def octets (x : V4) : List UInt8 := [x.a, x.b, x.c, x.d]

def ofOctets? : List UInt8 → Option V4
  | [a, b, c, d] => some ⟨a, b, c, d⟩
  | _ => none

def toNat (x : V4) : Nat := x.octets.foldl (fun n o => n * 256 + o.toNat) 0

end V4

namespace V6

def groups (x : V6) : List UInt16 := [x.g0, x.g1, x.g2, x.g3, x.g4, x.g5, x.g6, x.g7]

def ofGroups? : List UInt16 → Option V6
  | [g0, g1, g2, g3, g4, g5, g6, g7] => some ⟨g0, g1, g2, g3, g4, g5, g6, g7⟩
  | _ => none

def toNat (x : V6) : Nat := x.groups.foldl (fun n g => n * 65536 + g.toNat) 0

def split (g : UInt16) : List UInt8 := Bytes.bigEndian 2 g.toNat

def octets (x : V6) : List UInt8 := x.groups.flatMap split

def paired : List UInt8 → List UInt16
  | high :: low :: rest => Bytes.word high low :: paired rest
  | _ => []

def ofOctets? (octets : List UInt8) : Option V6 :=
  if octets.length = 16 then ofGroups? (paired octets) else none

def loopback : V6 := ⟨0, 0, 0, 0, 0, 0, 0, 1⟩

def mapped? (x : V6) : Option V4 :=
  if x.groups.take 6 = [0, 0, 0, 0, 0, 0xffff] then V4.ofOctets? (split x.g6 ++ split x.g7) else none

end V6

inductive Numeric where
  | v4 (address : V4)
  | v6 (address : V6)
deriving DecidableEq, Repr

namespace Numeric

def version : Numeric → Version
  | .v4 _ => .v4
  | .v6 _ => .v6

def ofOctets? (octets : List UInt8) : Option Numeric :=
  if octets.length = 4 then (V4.ofOctets? octets).map .v4 else (V6.ofOctets? octets).map .v6

end Numeric

end HostProbe
