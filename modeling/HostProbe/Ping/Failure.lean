import HostProbe.Address.Endpoint
import HostProbe.Fault
import HostProbe.Refusal

namespace HostProbe.Ping

inductive Failure where
  | timeout (seconds : Binary64)
  | unreachable (text : String)
  | timeExceeded
  | permission (text : String)
  | network (text : String)
  | address (text : String)
  | input (why : Refusal)
  | cancelled
deriving DecidableEq, Repr

namespace Failure

def message : Failure → String
  | .timeout x => "Ping timeout after " ++ Decimal.message x ++ " seconds"
  | .unreachable t => "Destination unreachable: " ++ t
  | .timeExceeded => "Time exceeded (TTL expired)"
  | .permission t => "Permission denied: " ++ t
  | .network t => "Network error: " ++ t
  | .address t => "Invalid IP address format: " ++ t
  | .input why => "Invalid ping parameters: " ++ why.message
  | .cancelled => "Ping cancelled"

def isFatal : Failure → Bool
  | .permission _ => true
  | .address _ => true
  | .input _ => true
  | .cancelled => true
  | _ => false

def ofRefusal : Refusal → Failure
  | .address text => .address text
  | why => .input why

def ofComplaint (form : AddressForm) : Failure := .address form.complaint

def ofFault (doing : String) (f : Fault) : Failure :=
  let text := doing ++ ": " ++ f.text
  if f.isDenied then .permission text
  else if f.isUnreachable then .unreachable text
  else .network text

end Failure

inductive WorkerEnd where
  | aborted
  | crashed (text : String)
deriving DecidableEq, Repr

def Failure.ofWorkerEnd : WorkerEnd → Failure
  | .aborted => .cancelled
  | .crashed text => .network ("probe worker failed: " ++ text)

end HostProbe.Ping
