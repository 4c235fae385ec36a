import HostProbe.Address.Numeric

namespace HostProbe.Icmp

structure Kind where
  echoRequest : UInt8
  echoReply : UInt8
  timeExceeded : UInt8
  unreachable : UInt8
deriving DecidableEq, Repr

def Kind.of : Version → Kind
  | .v4 => ⟨8, 0, 11, 3⟩
  | .v6 => ⟨128, 129, 3, 1⟩

end HostProbe.Icmp
