import HostProbe.Binary64
import HostProbe.Icmp.Kind
import HostProbe.Icmp.Layout

namespace HostProbe.Icmp

structure Message where
  kind : UInt8
  code : UInt8
  checksum : UInt16
  identifier : UInt16
  sequence : UInt16
  body : List UInt8
deriving DecidableEq, Repr

namespace Message

def ofBytes? : List UInt8 → Option Message
  | kind :: code :: c0 :: c1 :: i0 :: i1 :: s0 :: s1 :: body =>
    some ⟨kind, code, Bytes.word c0 c1, Bytes.word i0 i1, Bytes.word s0 s1, body⟩
  | _ => none

def ofFrame? (layout : Layout) (frame : List UInt8) : Option Message := do
  let start ← layout.offset? frame
  ofBytes? (frame.drop start)

def timestamp? (m : Message) : Option Binary64 :=
  if 8 ≤ m.body.length then some ⟨UInt64.ofNat (Bytes.number (m.body.take 8))⟩ else none

def quotedHeader? (version : Version) (body : List UInt8) : Option Nat :=
  match version, body with
  | .v4, [] => none
  | .v4, first :: _ => if first.toNat / 16 = 4 then some (first.toNat % 16 * 4) else none
  | .v6, _ => some 40

def quotedEcho? (m : Message) (version : Version) : Option (UInt16 × UInt16) := do
  let quoted ← ofBytes? (m.body.drop (← quotedHeader? version m.body))
  if quoted.kind = (Kind.of version).echoRequest then some (quoted.identifier, quoted.sequence)
  else none

end Message

end HostProbe.Icmp
