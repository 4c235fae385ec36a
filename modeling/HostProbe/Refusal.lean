import HostProbe.Decimal.Text

namespace HostProbe

inductive Refusal where
  | port (number : Nat)
  | portRange (first last : Nat)
  | timeout (seconds : Binary64)
  | packetSize (bytes : Nat)
  | hopLimit (hops : Nat)
  | address (text : String)
  | pingResult (flaw : String)
  | concurrency (limit : Nat)
deriving DecidableEq, Repr

def Refusal.message : Refusal → String
  | .port n => s!"Port number must be between 1 and 65535, got {n}"
  | .portRange a b => s!"Start port {a} cannot be greater than end port {b}"
  | .timeout x => "Timeout must be in (0, 300] seconds, got " ++ Decimal.message x
  | .packetSize n => s!"Packet size must be between 8 and 1500 bytes, got {n}"
  | .hopLimit n => s!"TTL must be between 1 and 255, got {n}"
  | .address text => "Invalid IP address format: " ++ text
  | .pingResult flaw => "Invalid ping result: " ++ flaw
  | .concurrency n => s!"Max concurrent connections must be at least 1, got {n}"

end HostProbe
