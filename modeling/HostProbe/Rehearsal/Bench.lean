import HostProbe.Rehearsal.Kernel

namespace HostProbe.Rehearsal

open HostProbe.Ping

structure Bench where
  socket : Socket
  script : Script
  sent : Option (List UInt8)
  inbox : List Event
  calls : List Call

namespace Bench

def of (socket : Socket) (script : Script) (calls : List Call) : Bench :=
  ⟨socket, script, none, script.events, calls⟩

def record (b : Bench) (call : Call) : Bench := { b with calls := b.calls ++ [call] }

def answer : Option Fault → α → Except Fault α
  | none, a => .ok a
  | some f, _ => .error f

def limitHops (b : Bench) (hops : UInt8) : Except Fault Unit × Bench :=
  (answer b.script.hops (), b.record (.setHops b.socket.version hops))

def send (b : Bench) (packet : List UInt8) (destination : Numeric) : Except Fault Nat × Bench :=
  let b := b.record (.send packet destination)
  match b.script.send with
  | some f => (.error f, b)
  | none => (.ok packet.length, { b with sent := some packet })

def isReadable (b : Bench) : Bool := b.sent.isSome && !b.inbox.isEmpty

def wait (b : Bench) (nanos : Nat) : Except Fault Bool × Bench :=
  (Socket.readable (.ok b.isReadable), b.record (.poll (Socket.pollMillis nanos)))

def receive (b : Bench) (room : Nat) : Except Fault (Option Datagram) × Bench :=
  let b := b.record (.receive room)
  match b.sent, b.inbox with
  | some packet, e :: es =>
    (Socket.received ((e.answer b.socket.version packet).map fun d =>
      { d with bytes := d.bytes.take room }), { b with inbox := es })
  | _, _ => (Socket.received (.error (.bare .wouldBlock)), b)

def localPort (b : Bench) : Option UInt16 × Bench :=
  (Socket.localPort b.script.localAddress, b.record .localAddress)

def close (b : Bench) : Bench := b.record .close

end Bench

end HostProbe.Rehearsal
