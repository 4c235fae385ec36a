import HostProbe.Address.Endpoint
import HostProbe.Fault
import HostProbe.Refusal

namespace HostProbe.Scan

inductive Failure where
  | timeout (target : String) (port : Nat)
  | permission (text : String)
  | network (text : String)
  | connection (text : String)
  | portRange (text : String)
  | address (text : String)
  | input (why : Refusal)
  | cancelled
deriving DecidableEq, Repr

namespace Failure

def message : Failure → String
  | .timeout target port => s!"Port scan timed out for {target}:{port}"
  | .permission t => "Permission denied for port scan: " ++ t
  | .network t => "Network error during port scan: " ++ t
  | .connection t => "Connection to target failed: " ++ t
  | .portRange t => "Invalid port range: " ++ t
  | .address t => "Invalid IP address format: " ++ t
  | .input why => "Invalid scan parameters: " ++ why.message
  | .cancelled => "Port scan cancelled"

/-- In a scan of many ports the failure makes its port filtered and leaves the others alone. -/
def isPerPort : Failure → Bool
  | .timeout _ _ => true
  | .network _ => true
  | _ => false

def ofRefusal : Refusal → Failure
  | .portRange first last => .portRange (Refusal.portRange first last).message
  | .address text => .address text
  | why => .input why

def ofComplaint (form : AddressForm) : Failure := .address form.complaint

def ofFault (target : String) (port : Nat) (f : Fault) : Failure :=
  if f.kind = .timedOut then .timeout target port
  else if f.isDenied then .permission f.text
  else if f.kind = .addrNotAvailable ∨ f.kind = .addrInUse then .connection f.text
  else .network f.text

end Failure

end HostProbe.Scan
