import HostProbe.Address.Text

namespace HostProbe

structure Endpoint where
  address : Numeric
  port : UInt16
  scope : UInt32
deriving DecidableEq, Repr

namespace Endpoint

def of (address : Numeric) (port : Nat) : Endpoint := ⟨address, UInt16.ofNat port, 0⟩

def readBelow (bound : Nat) (s : List Char) : Option (Nat × List Char) :=
  match Text.digitRun 10 s with
  | ([], _) => none
  | (ds, rest) => if Text.number 10 ds < bound then some (Text.number 10 ds, rest) else none

def readPort : List Char → Option (Nat × List Char)
  | ':' :: s => readBelow 0x10000 s
  | _ => none

def readV4 (s : List Char) : Option (Endpoint × List Char) := do
  let (x, s) ← V4.readText s
  let (port, s) ← readPort s
  some (of (.v4 x) port, s)

def readScope : List Char → Nat × List Char
  | '%' :: s => (readBelow 0x100000000 s).getD (0, '%' :: s)
  | s => (0, s)

def readV6 : List Char → Option (Endpoint × List Char)
  | '[' :: s => do
    let (x, s) ← V6.readText s
    let (scope, s) := readScope s
    match s with
    | ']' :: s =>
      let (port, s) ← readPort s
      some (⟨.v6 x, UInt16.ofNat port, UInt32.ofNat scope⟩, s)
    | _ => none
  | _ => none

def readText (s : List Char) : Option (Endpoint × List Char) :=
  match readV4 s with
  | some r => some r
  | none => readV6 s

def text (e : Endpoint) : String :=
  match e.address with
  | .v4 x => s!"{String.ofList x.written}:{e.port.toNat}"
  | .v6 x =>
    let scope := if e.scope = 0 then "" else s!"%{e.scope.toNat}"
    "[" ++ String.ofList x.written ++ scope ++ s!"]:{e.port.toNat}"

end Endpoint

inductive AddressForm where
  | ip
  | v4
  | v6
  | endpoint
  | endpointV4
  | endpointV6
deriving DecidableEq, Repr

namespace AddressForm

def name : AddressForm → String
  | .ip => "IP address"
  | .v4 => "IPv4 address"
  | .v6 => "IPv6 address"
  | .endpoint => "socket address"
  | .endpointV4 => "IPv4 socket address"
  | .endpointV6 => "IPv6 socket address"

def complaint (form : AddressForm) : String := s!"invalid {form.name} syntax"

def canonical? (form : AddressForm) (s : List Char) : Option String :=
  match form with
  | .ip => (Numeric.ofText? s).map Numeric.text
  | .v4 => (V4.ofText? s).map fun x => String.ofList x.written
  | .v6 => (V6.ofText? s).map fun x => String.ofList x.written
  | .endpoint => (Text.whole Endpoint.readText s).map Endpoint.text
  | .endpointV4 => (Text.whole Endpoint.readV4 s).map Endpoint.text
  | .endpointV6 => (Text.whole Endpoint.readV6 s).map Endpoint.text

end AddressForm

end HostProbe
