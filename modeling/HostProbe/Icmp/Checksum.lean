import HostProbe.Address.Numeric

namespace HostProbe.Icmp

def words : List UInt8 → List UInt16
  | high :: low :: rest => Bytes.word high low :: words rest
  | [last] => [Bytes.word last 0]
  | [] => []

def wordSum (data : List UInt8) : Nat := (words data).foldr (fun w sum => w.toNat + sum) 0

def register (data : List UInt8) : UInt32 :=
  (words data).foldl (fun sum w => sum + w.toUInt32) 0

def foldCarries (sum : Nat) : Nat :=
  if sum < 65536 then sum else foldCarries (sum % 65536 + sum / 65536)
termination_by sum

def checksum (data : List UInt8) : UInt16 :=
  UInt16.ofNat (65535 - foldCarries (register data).toNat)

/-- The bytes put in front of an ICMPv6 message for its checksum only. -/
def pseudoHeader (source destination : V6) (length : Nat) : List UInt8 :=
  source.octets ++ destination.octets ++ Bytes.bigEndian 4 length ++ [0, 0, 0, 58]

end HostProbe.Icmp
