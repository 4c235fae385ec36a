import HostProbe.Binary64
import HostProbe.Icmp.Checksum
import HostProbe.Icmp.Kind

namespace HostProbe.Icmp

structure Request where
  version : Version
  identifier : UInt16
  sequence : UInt16
  size : Nat
  timestamp : Binary64
  route : Option (V6 × V6)
deriving DecidableEq, Repr

namespace Request

def filler : UInt8 := 0x51

def payload (r : Request) : List UInt8 :=
  Bytes.bigEndian 8 r.timestamp.bits.toNat ++ List.replicate (r.size - 8) filler

def withChecksum (r : Request) (sum : UInt16) : List UInt8 :=
  (Kind.of r.version).echoRequest :: 0 :: (Bytes.bigEndian 2 sum.toNat ++
    Bytes.bigEndian 2 r.identifier.toNat ++ Bytes.bigEndian 2 r.sequence.toNat ++ r.payload)

def covered (r : Request) : List UInt8 :=
  match r.version, r.route with
  | .v6, some (source, destination) =>
    pseudoHeader source destination (r.withChecksum 0).length
  | _, _ => []

/-- The bytes of the request. The checksum is taken with zeros in its place. -/
def packet (r : Request) : List UInt8 :=
  r.withChecksum (checksum (r.covered ++ r.withChecksum 0))

end Request

end HostProbe.Icmp
