import HostProbe.Datum.Record

namespace HostProbe

structure Port where
  number : Nat
  positive : 0 < number
  bounded : number ≤ 65535
deriving DecidableEq, Repr

namespace Port

inductive Category where
  | wellKnown
  | registered
  | dynamic
deriving DecidableEq, Repr

def Category.name : Category → String
  | .wellKnown => "well-known"
  | .registered => "registered"
  | .dynamic => "dynamic"

def Category.names : List (String × Category) :=
  [("well-known", .wellKnown), ("registered", .registered), ("dynamic", .dynamic)]

def Category.datum (c : Category) : Datum := .text c.name

def of (number : Nat) : Except Refusal Port :=
  if h : 0 < number ∧ number ≤ 65535 then .ok ⟨number, h.1, h.2⟩ else .error (.port number)

def word (p : Port) : UInt16 := UInt16.ofNat p.number

def isWellKnown (p : Port) : Bool := decide (p.number ≤ 1023)

def isRegistered (p : Port) : Bool := decide (1024 ≤ p.number ∧ p.number ≤ 49151)

def isDynamic (p : Port) : Bool := decide (49152 ≤ p.number)

def category (p : Port) : Category :=
  if p.isWellKnown then .wellKnown else if p.isRegistered then .registered else .dynamic

def text (p : Port) : String := toString p.number

def datum (p : Port) : Datum := .int p.number

def read (d : Datum) : Reading Port := do
  Reading.ofRefusal (of (← d.readNat 32))

end Port

end HostProbe
