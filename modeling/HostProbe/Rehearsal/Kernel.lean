import HostProbe.Ping.Batch

namespace HostProbe.Rehearsal

open HostProbe.Ping

structure Change where
  identifier : Option UInt16
  flip : UInt16
  sequence : Option UInt16

inductive Content where
  | frame (bytes : List UInt8)
  | fault (f : Fault)
  | echo (kind : Option UInt8) (change : Change) (stamp : Option Binary64) (outer : Nat)
    (cut : Option Nat)
  | quote (kind code : Option UInt8) (change : Change) (inner outer : Nat) (cut : Option Nat)

structure Event where
  content : Content
  sender : Option Numeric
  cancels : Bool

structure Script where
  raw : Option Fault
  datagram : Option Fault
  nonblocking : Option Fault
  hops : Option Fault
  send : Option Fault
  localAddress : Except Fault (Option UInt16)
  cancelsOnSend : Bool
  events : List Event

def overwrite (start : Nat) (bytes packet : List UInt8) : List UInt8 :=
  if start + bytes.length ≤ packet.length then
    packet.take start ++ bytes ++ packet.drop (start + bytes.length)
  else packet

def identifierOf (packet : List UInt8) : UInt16 :=
  match packet.drop 4 with
  | high :: low :: _ => Bytes.word high low
  | _ => 0

def Change.apply (c : Change) (packet : List UInt8) : List UInt8 :=
  let identifier := c.identifier.getD (identifierOf packet ^^^ c.flip)
  let packet := overwrite 4 (Bytes.bigEndian 2 identifier.toNat) packet
  match c.sequence with
  | none => packet
  | some n => overwrite 6 (Bytes.bigEndian 2 n.toNat) packet

def header (words : Nat) : List UInt8 :=
  if words = 0 then []
  else (UInt8.ofNat words ||| 0x40) :: List.replicate (4 * words - 1) 0

def quotedHeader (version : Version) (words : Nat) : List UInt8 :=
  match version with
  | .v4 => header words
  | .v6 => 0x60 :: List.replicate 39 0

def cutTo (bytes : List UInt8) : Option Nat → List UInt8
  | none => bytes
  | some n => bytes.take n

def Content.bytes (version : Version) (sent : List UInt8) : Content → Except Fault (List UInt8)
  | .frame bytes => .ok bytes
  | .fault f => .error f
  | .echo kind change stamp outer cut =>
    let packet := change.apply (overwrite 0 [kind.getD (Icmp.Kind.of version).echoReply] sent)
    let packet := match stamp with
      | none => packet
      | some x => overwrite 8 (Bytes.bigEndian 8 x.bits.toNat) packet
    .ok (cutTo (header outer ++ packet) cut)
  | .quote kind code change inner outer cut =>
    let message := kind.getD (Icmp.Kind.of version).timeExceeded :: code.getD 0 ::
      List.replicate 6 0
    .ok (cutTo (header outer ++ message ++ quotedHeader version inner ++ change.apply (sent.take 8))
      cut)

def Event.answer (version : Version) (sent : List UInt8) (e : Event) : Except Fault Datagram :=
  (e.content.bytes version sent).map (⟨·, e.sender⟩)

namespace Script

def clock : Binary64 := Binary64.ofNat 1750000000

def pace : Nat := 1000

def opening (s : Script) : Opening := ⟨.linux, s.raw, s.datagram, s.nonblocking⟩

/-- The rounds in which the events are received, and one more in which nothing comes. Events cancel
the wait only if they can. -/
def rounds (version : Version) (sent : List UInt8) (canCancel : Bool) :
    (cancelled : Bool) → List Event → List SystemRound
  | cancelled, [] => [⟨cancelled, pace, .ok false, .error (.bare .wouldBlock), clock⟩]
  | cancelled, e :: es =>
    ⟨cancelled, pace, .ok true, e.answer version sent, clock⟩ ::
      rounds version sent canCancel (cancelled || canCancel && e.cancels) es

/-- The conditions of a probe. The wait may be cancelled beforehand, or by the script if it can. -/
def conditions (s : Script) (canCancel cancelled : Bool) : Conditions where
  opening := s.opening
  hops := s.hops
  send := s.send
  localAddress := s.localAddress
  identifier := 0x1d0d
  lookup := ⟨none, none, none, .ok (.v6 V6.loopback)⟩
  clock := clock
  rounds := fun version sent =>
    rounds version sent canCancel (cancelled || canCancel && s.cancelsOnSend) s.events

end Script

end HostProbe.Rehearsal
