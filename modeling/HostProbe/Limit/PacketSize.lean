import HostProbe.Datum.Record

namespace HostProbe

structure PacketSize where
  bytes : Nat
  least : 8 ≤ bytes
  most : bytes ≤ 1500
deriving DecidableEq, Repr

namespace PacketSize

def of (bytes : Nat) : Except Refusal PacketSize :=
  if h : 8 ≤ bytes ∧ bytes ≤ 1500 then .ok ⟨bytes, h.1, h.2⟩ else .error (.packetSize bytes)

def word (s : PacketSize) : UInt16 := UInt16.ofNat s.bytes

def text (s : PacketSize) : String := s!"{s.bytes} bytes"

def datum (s : PacketSize) : Datum := .int s.bytes

def read (d : Datum) : Reading PacketSize := do
  Reading.ofRefusal (of (← d.readNat 32))

end PacketSize

end HostProbe
