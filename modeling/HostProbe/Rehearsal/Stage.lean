import HostProbe.Prober

namespace HostProbe.Rehearsal

structure PortAnswer where
  delayMillis : Nat
  answer : Except Fault Unit

/-- How the ports of a network answer: some one attempt after another, the last answer for all
further attempts, and all other ports in one way. -/
structure PortScript where
  listed : List (Nat × List PortAnswer)
  otherwise : PortAnswer

namespace PortScript

def serve (port : Nat) (otherwise : PortAnswer) :
    List (Nat × List PortAnswer) → PortAnswer × List (Nat × List PortAnswer)
  | [] => (otherwise, [])
  | (p, answers) :: rest =>
    if p = port then
      match answers with
      | [] => (otherwise, (p, answers) :: rest)
      | [a] => (a, (p, [a]) :: rest)
      | a :: more => (a, (p, more) :: rest)
    else
      let (a, rest) := serve port otherwise rest
      (a, (p, answers) :: rest)

/-- An answer that comes after the time limit is a timeout. -/
def connector : Scan.Connector PortScript := fun s endpoint timeout =>
  let (a, listed) := serve endpoint.port.toNat s.otherwise s.listed
  let delay := a.delayMillis * 1000000
  (if timeout < delay then ⟨timeout, .error (.bare .timedOut)⟩ else ⟨delay, a.answer⟩,
    { s with listed })

def network (s : PortScript) : Scan.Network PortScript where
  connect := connector
  state := s
  clock := 0
  moment := fun nanos => (Time.Stamp.of? (nanos / Time.second) (nanos % Time.second)).getD .origin
  connections := []
  peak := 0
  journal := []

end PortScript

structure HostScript where
  listed : List (String × Except Ping.Failure Binary64)
  otherwise : Except Ping.Failure Binary64

def HostScript.ping (s : HostScript) (r : Ping.Request) : Except Ping.Failure Ping.Result :=
  r.conclude ((s.listed.lookup r.destination.text).getD s.otherwise)

structure Stage where
  network : Scan.Network PortScript
  system : Ping.System
  asked : List Ping.Request

namespace Stage

def onNetwork (f : α → Scan.Network PortScript → β × Scan.Network PortScript) (a : α) :
    StateM Stage β := fun s =>
  let (b, network) := f a s.network
  (b, { s with network })

def onSystem (f : α → Ping.System → β × Ping.System) (a : α) : StateM Stage β := fun s =>
  let (b, system) := f a s.system
  (b, { s with system })

def scanner : Scanner (StateM Stage) where
  one := onNetwork (Scanner.onNetwork.one · ·)
  many := onNetwork (Scanner.onNetwork.many · ·)
  range := onNetwork (Scanner.onNetwork.range · ·)
  common := onNetwork (Scanner.onNetwork.common · ·)

def socketPinger : Pinger (StateM Stage) where
  one := onSystem (Pinger.onSystem.one · ·)
  many := onSystem (Pinger.onSystem.many · ·)

def pingEach (hosts : HostScript) : List Ping.Request → StateM Stage
    (Except Ping.Failure (List Ping.Result))
  | [] => pure (.ok [])
  | r :: rs => do
    modify fun s => { s with asked := s.asked ++ [r] }
    match (r.contribute (hosts.ping r)).2 with
    | .error e => return .error e
    | .ok result => return (← pingEach hosts rs).map (result :: ·)

def scriptedPinger (hosts : HostScript) : Pinger (StateM Stage) where
  one := fun r s => (hosts.ping r, { s with asked := s.asked ++ [r] })
  many := fun b => pingEach hosts b.each

end Stage

end HostProbe.Rehearsal
