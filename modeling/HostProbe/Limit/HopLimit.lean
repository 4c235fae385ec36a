import HostProbe.Datum.Record

namespace HostProbe

structure HopLimit where
  hops : Nat
  positive : 1 ≤ hops
  bounded : hops ≤ 255
deriving DecidableEq, Repr

namespace HopLimit

def of (hops : Nat) : Except Refusal HopLimit :=
  if h : 1 ≤ hops ∧ hops ≤ 255 then .ok ⟨hops, h.1, h.2⟩ else .error (.hopLimit hops)

def ofOption : Option Nat → Except Refusal (Option HopLimit)
  | none => .ok none
  | some n => (of n).map some

def byte (h : HopLimit) : UInt8 := UInt8.ofNat h.hops

def text (h : HopLimit) : String := s!"{h.hops} hops"

def datum (h : HopLimit) : Datum := .int h.hops

def read (d : Datum) : Reading HopLimit := do
  Reading.ofRefusal (of (← d.readNat 32))

end HopLimit

end HostProbe
