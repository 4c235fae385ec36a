import HostProbe.Prober
import HostProbe.Proofs.Refusal

namespace HostProbe

namespace Ping

def limitChecks (timeout : Binary64) (packetSize : Nat) (hopLimit : Option Nat) :
    List (Option Refusal) :=
  [refusal? (Timeout.of timeout), refusal? (PacketSize.of packetSize),
    refusal? (HopLimit.ofOption hopLimit)]

namespace Request

def checks (address : String) (timeout : Binary64) (packetSize : Nat) (hopLimit : Option Nat) :
    List (Option Refusal) :=
  refusal? (Address.parse address) :: limitChecks timeout packetSize hopLimit

structure Holds (address : String) (timeout : Binary64) (packetSize : Nat) (hopLimit : Option Nat)
    (r : Request) : Prop where
  destination : r.destination.Names address
  timeout : r.timeout.seconds = timeout
  packetSize : r.packetSize.bytes = packetSize
  hopLimit : r.hopLimit.map HopLimit.hops = hopLimit

theorem checked_of (address : String) (timeout : Binary64) (packetSize : Nat)
    (hopLimit : Option Nat) :
    Checked (checks address timeout packetSize hopLimit)
      (Holds address timeout packetSize hopLimit) (of address timeout packetSize hopLimit) := by
  refine (Address.checked_parse address).bind fun d hd => ?_
  refine (Timeout.checked_of timeout).bind fun t ht => ?_
  refine (PacketSize.checked_of packetSize).bind fun s hs => ?_
  refine (HopLimit.checked_ofOption hopLimit).bind fun h hh => ?_
  exact .pure ⟨hd, ht, hs, hh⟩

end Request

namespace BatchRequest

def checks (addresses : List String) (timeout : Binary64) (packetSize : Nat)
    (hopLimit : Option Nat) : List (Option Refusal) :=
  addresses.map (fun address => refusal? (Address.parse address)) ++
    limitChecks timeout packetSize hopLimit

structure Holds (addresses : List String) (timeout : Binary64) (packetSize : Nat)
    (hopLimit : Option Nat) (b : BatchRequest) : Prop where
  destinations : List.Forall₂ (fun address (x : Address) => x.Names address) addresses b.destinations
  timeout : b.timeout.seconds = timeout
  packetSize : b.packetSize.bytes = packetSize
  hopLimit : b.hopLimit.map HopLimit.hops = hopLimit

theorem checked_of (addresses : List String) (timeout : Binary64) (packetSize : Nat)
    (hopLimit : Option Nat) :
    Checked (checks addresses timeout packetSize hopLimit)
      (Holds addresses timeout packetSize hopLimit) (of addresses timeout packetSize hopLimit) := by
  refine (Checked.mapM Address.checked_parse addresses).bind fun ds hds => ?_
  refine (Timeout.checked_of timeout).bind fun t ht => ?_
  refine (PacketSize.checked_of packetSize).bind fun s hs => ?_
  refine (HopLimit.checked_ofOption hopLimit).bind fun h hh => ?_
  exact .pure ⟨hds, ht, hs, hh⟩

end BatchRequest

end Ping

namespace Scan

namespace PortRequest

def checks (address : String) (port : Nat) (timeout : Binary64) : List (Option Refusal) :=
  [refusal? (Address.parse address), refusal? (Port.of port), refusal? (Timeout.of timeout)]

structure Holds (address : String) (port : Nat) (timeout : Binary64) (r : PortRequest) : Prop where
  target : r.target.Names address
  port : r.port.number = port
  timeout : r.timeout.seconds = timeout

theorem checked_of (address : String) (port : Nat) (timeout : Binary64) :
    Checked (checks address port timeout) (Holds address port timeout)
      (of address port timeout) := by
  refine (Address.checked_parse address).bind fun d hd => ?_
  refine (Port.checked_of port).bind fun p hp => ?_
  refine (Timeout.checked_of timeout).bind fun t ht => ?_
  exact .pure ⟨hd, hp, ht⟩

end PortRequest

namespace ListRequest

def checks (address : String) (ports : List Nat) (timeout : Binary64) : List (Option Refusal) :=
  refusal? (Address.parse address) ::
    (ports.map (fun port => refusal? (Port.of port)) ++ [refusal? (Timeout.of timeout)])

structure Holds (address : String) (ports : List Nat) (timeout : Binary64) (maxConcurrent : Nat)
    (r : ListRequest) : Prop where
  target : r.target.Names address
  ports : List.Forall₂ (fun port (p : Port) => p.number = port) ports r.ports
  timeout : r.timeout.seconds = timeout
  maxConcurrent : r.maxConcurrent = maxConcurrent

theorem checked_of (address : String) (ports : List Nat) (timeout : Binary64)
    (maxConcurrent : Nat) :
    Checked (checks address ports timeout) (Holds address ports timeout maxConcurrent)
      (of address ports timeout maxConcurrent) := by
  refine (Address.checked_parse address).bind fun d hd => ?_
  refine (Checked.mapM Port.checked_of ports).bind fun ps hps => ?_
  refine (Timeout.checked_of timeout).bind fun t ht => ?_
  exact .pure ⟨hd, hps, ht, rfl⟩

end ListRequest

namespace RangeRequest

def checks (address : String) (first last : Nat) (timeout : Binary64) : List (Option Refusal) :=
  [refusal? (Address.parse address), refusal? (Port.of first), refusal? (Port.of last),
    PortRange.orderRefusal? first last, refusal? (Timeout.of timeout)]

structure Holds (address : String) (first last : Nat) (timeout : Binary64) (maxConcurrent : Nat)
    (r : RangeRequest) : Prop where
  target : r.target.Names address
  first : r.range.first.number = first
  last : r.range.last.number = last
  timeout : r.timeout.seconds = timeout
  maxConcurrent : r.maxConcurrent = maxConcurrent

theorem checked_of (address : String) (first last : Nat) (timeout : Binary64)
    (maxConcurrent : Nat) :
    Checked (checks address first last timeout) (Holds address first last timeout maxConcurrent)
      (of address first last timeout maxConcurrent) := by
  refine (Address.checked_parse address).bind fun d hd => ?_
  refine (PortRange.checked_ofNumbers first last).bind fun r hr => ?_
  refine (Timeout.checked_of timeout).bind fun t ht => ?_
  exact .pure ⟨hd, hr.1, hr.2, ht, rfl⟩

end RangeRequest

namespace CommonRequest

def checks (address : String) (timeout : Binary64) : List (Option Refusal) :=
  [refusal? (Address.parse address), refusal? (Timeout.of timeout)]

structure Holds (address : String) (timeout : Binary64) (maxConcurrent : Nat) (r : CommonRequest) :
    Prop where
  target : r.target.Names address
  timeout : r.timeout.seconds = timeout
  maxConcurrent : r.maxConcurrent = maxConcurrent

theorem checked_of (address : String) (timeout : Binary64) (maxConcurrent : Nat) :
    Checked (checks address timeout) (Holds address timeout maxConcurrent)
      (of address timeout maxConcurrent) := by
  refine (Address.checked_parse address).bind fun d hd => ?_
  refine (Timeout.checked_of timeout).bind fun t ht => ?_
  exact .pure ⟨hd, ht, rfl⟩

end CommonRequest

end Scan

inductive Asked where
  | ping (r : Ping.Request)
  | pings (b : Ping.BatchRequest)
  | port (r : Scan.PortRequest)
  | ports (r : Scan.ListRequest)
  | range (r : Scan.RangeRequest)
  | common (r : Scan.CommonRequest)

namespace Prober

variable {m : Type → Type} [Monad m] {ρ ε β : Type}

def noting (asked : ρ → Asked) (ask : ρ → m β) (request : ρ) : StateT (List Asked) m β :=
  fun log => (fun answer => (answer, log ++ [asked request])) <$> ask request

def noted (p : Prober m) : Prober (StateT (List Asked) m) where
  pinger := ⟨noting .ping p.pinger.one, noting .pings p.pinger.many⟩
  scanner :=
    { one := noting .port p.scanner.one
      many := noting .ports p.scanner.many
      range := noting .range p.scanner.range
      common := noting .common p.scanner.common }
  settings := p.settings

theorem askWith_eq_of_refused {checks : List (Option Refusal)} {fits : ρ → Prop}
    {built : Except Refusal ρ} {refuse : Refusal → ε} {ask : ρ → m (Except ε β)} {why : Refusal}
    (h : Checked checks fits built) (hw : firstRefusal? checks = some why) :
    askWith refuse ask built = pure (.error (refuse why)) := by
  rw [h.eq_error_iff.2 hw]
  rfl

theorem exists_askWith_eq {checks : List (Option Refusal)} {fits : ρ → Prop}
    {built : Except Refusal ρ} {refuse : Refusal → ε} {ask : ρ → m (Except ε β)}
    (h : Checked checks fits built) (hn : firstRefusal? checks = none) :
    ∃ request, fits request ∧ askWith refuse ask built = ask request := by
  cases h with
  | refused h => cases hn.symm.trans h
  | @admitted request _ hr => exact ⟨request, hr, rfl⟩

/-- A run asks at most one thing of an engine, and nothing exactly when its input is refused. The
first refusal then is its answer; otherwise the answer of the engine is. -/
structure Gated (checks : List (Option Refusal)) (refuse : Refusal → ε) (fits : ρ → Prop)
    (asked : ρ → Asked) (ask : ρ → m (Except ε β)) (run : m (Except ε β))
    (noted : StateT (List Asked) m (Except ε β)) : Prop where
  refused : ∀ why, firstRefusal? checks = some why → run = pure (.error (refuse why))
  calls : ∃ calls : List Asked,
    (∀ log, noted.run log = (fun answer => (answer, log ++ calls)) <$> run) ∧
    calls.length ≤ 1 ∧ (calls = [] ↔ ∃ why, some why ∈ checks) ∧
    ∀ c ∈ calls, ∃ request, c = asked request ∧ fits request ∧ run = ask request

theorem gated [LawfulMonad m] {checks : List (Option Refusal)} {fits : ρ → Prop}
    {built : Except Refusal ρ} (refuse : Refusal → ε) (asked : ρ → Asked)
    (ask : ρ → m (Except ε β)) (h : Checked checks fits built) :
    Gated checks refuse fits asked ask (askWith refuse ask built)
      (askWith refuse (noting asked ask) built) where
  refused := fun _ hw => askWith_eq_of_refused h hw
  calls := by
    cases h with
    | @refused why h =>
        have hmem : ∃ why, some why ∈ checks := ⟨why, mem_of_firstRefusal? h⟩
        refine ⟨[], ?_, Nat.zero_le 1, iff_of_true rfl hmem, List.forall_mem_nil _⟩
        intro log
        simp [askWith]
    | @admitted request h hr =>
        have hnone := firstRefusal?_eq_none_iff.1 h
        refine ⟨[asked request], fun log => rfl, Nat.le_refl 1, ?_, ?_⟩
        · exact iff_of_false (List.cons_ne_nil _ _) fun ⟨why, hw⟩ => hnone why hw
        · exact List.forall_mem_singleton.2 ⟨request, rfl, hr, rfl⟩

theorem Gated.exists_asked {checks : List (Option Refusal)} {refuse : Refusal → ε} {fits : ρ → Prop}
    {asked : ρ → Asked} {ask : ρ → m (Except ε β)} {run : m (Except ε β)}
    {noted : StateT (List Asked) m (Except ε β)} (h : Gated checks refuse fits asked ask run noted)
    (hn : firstRefusal? checks = none) : ∃ request, fits request ∧
      noted.run [] = (fun answer => (answer, [asked request])) <$> ask request := by
  obtain ⟨calls, hrun, hlength, hnil, hcalls⟩ := h.calls
  cases calls with
  | nil =>
      obtain ⟨why, hw⟩ := hnil.1 rfl
      exact absurd hw (firstRefusal?_eq_none_iff.1 hn why)
  | cons c rest =>
      obtain ⟨request, rfl, hr, hask⟩ := hcalls c List.mem_cons_self
      have hrest : rest = [] := List.length_eq_zero_iff.1 (by simpa using hlength)
      refine ⟨request, hr, ?_⟩
      rw [hrun, hask, hrest]
      rfl

/-- Every way into the prober is gated: parts of the input are checked in their order, addresses and
ports in the order of their lists, and nothing is asked of an engine before. -/
theorem entries_gated [LawfulMonad m] (p : Prober m) :
    (∀ address timeout packetSize hopLimit,
      Gated (Ping.Request.checks address timeout packetSize hopLimit) Ping.Failure.ofRefusal
        (Ping.Request.Holds address timeout packetSize hopLimit) .ping p.pinger.one
        (p.ping address timeout packetSize hopLimit)
        (p.noted.ping address timeout packetSize hopLimit)) ∧
    (∀ addresses timeout packetSize hopLimit,
      Gated (Ping.BatchRequest.checks addresses timeout packetSize hopLimit) Ping.Failure.ofRefusal
        (Ping.BatchRequest.Holds addresses timeout packetSize hopLimit) .pings p.pinger.many
        (p.pingAll addresses timeout packetSize hopLimit)
        (p.noted.pingAll addresses timeout packetSize hopLimit)) ∧
    (∀ address port timeout,
      Gated (Scan.PortRequest.checks address port timeout) Scan.Failure.ofRefusal
        (Scan.PortRequest.Holds address port timeout) .port p.scanner.one
        (p.scanPort address port timeout) (p.noted.scanPort address port timeout)) ∧
    (∀ address ports timeout maxConcurrent,
      Gated (Scan.ListRequest.checks address ports timeout) Scan.Failure.ofRefusal
        (Scan.ListRequest.Holds address ports timeout maxConcurrent) .ports p.scanner.many
        (p.scanPorts address ports timeout maxConcurrent)
        (p.noted.scanPorts address ports timeout maxConcurrent)) ∧
    (∀ address first last timeout maxConcurrent,
      Gated (Scan.RangeRequest.checks address first last timeout) Scan.Failure.ofRefusal
        (Scan.RangeRequest.Holds address first last timeout maxConcurrent) .range p.scanner.range
        (p.scanRange address first last timeout maxConcurrent)
        (p.noted.scanRange address first last timeout maxConcurrent)) ∧
    (∀ address timeout maxConcurrent,
      Gated (Scan.CommonRequest.checks address timeout) Scan.Failure.ofRefusal
        (Scan.CommonRequest.Holds address timeout maxConcurrent) .common p.scanner.common
        (p.scanCommon address timeout maxConcurrent)
        (p.noted.scanCommon address timeout maxConcurrent)) ∧
    (∀ address,
      Gated (Ping.Request.checks address p.settings.ping.timeout p.settings.ping.packetSize
          p.settings.ping.hopLimit) Ping.Failure.ofRefusal
        (Ping.Request.Holds address p.settings.ping.timeout p.settings.ping.packetSize
          p.settings.ping.hopLimit) .ping p.pinger.one
        (p.pingHost address) (p.noted.pingHost address)) ∧
    ∀ address,
      Gated (Scan.CommonRequest.checks address p.settings.scan.timeout) Scan.Failure.ofRefusal
        (Scan.CommonRequest.Holds address p.settings.scan.timeout p.settings.scan.maxConcurrent)
        .common p.scanner.common (p.scanHost address) (p.noted.scanHost address) := by
  refine ⟨?_, ?_, ?_, ?_, ?_, ?_, ?_, ?_⟩
  · intro address timeout packetSize hopLimit
    exact gated _ _ _ (Ping.Request.checked_of address timeout packetSize hopLimit)
  · intro addresses timeout packetSize hopLimit
    exact gated _ _ _ (Ping.BatchRequest.checked_of addresses timeout packetSize hopLimit)
  · intro address port timeout
    exact gated _ _ _ (Scan.PortRequest.checked_of address port timeout)
  · intro address ports timeout maxConcurrent
    exact gated _ _ _ (Scan.ListRequest.checked_of address ports timeout maxConcurrent)
  · intro address first last timeout maxConcurrent
    exact gated _ _ _ (Scan.RangeRequest.checked_of address first last timeout maxConcurrent)
  · intro address timeout maxConcurrent
    exact gated _ _ _ (Scan.CommonRequest.checked_of address timeout maxConcurrent)
  · intro address
    exact gated _ _ _ (Ping.Request.checked_of address _ _ _)
  · intro address
    exact gated _ _ _ (Scan.CommonRequest.checked_of address _ _)

def idle : Prober Id where
  pinger := ⟨fun _ => .error .timeExceeded, fun _ => .ok []⟩
  scanner :=
    { one := fun _ => .error .cancelled
      many := fun _ => .ok []
      range := fun _ => .error .cancelled
      common := fun _ => .error (.connection "busy") }
  settings := .builtin

/-- Two parts are refused and the first is the answer; without them one ping is asked for. The
common ports are asked for as such, and the answer is not that of a range. -/
theorem entries_gated_idle :
    idle.ping "127.0.0.1" (.ofNat 2) 7 (some 256) = .error (.input (.packetSize 7)) ∧
    (∃ r, (idle.noted.ping " 127.0.0.1" (.ofNat 2) 8 none).run [] =
      (.error .timeExceeded, [.ping r]) ∧ r.destination.text = "127.0.0.1") ∧
    ∃ c, (idle.noted.scanCommon "::1 " (.ofNat 2) 0).run [] =
      (.error (.connection "busy"), [.common c]) ∧ c.target.text = "::1" := by
  obtain ⟨hping, _, _, _, _, hcommon, _⟩ := entries_gated idle
  refine ⟨?_, ?_, ?_⟩
  · exact (hping "127.0.0.1" (.ofNat 2) 7 (some 256)).refused (.packetSize 7) (by decide +kernel)
  · obtain ⟨r, hr, hrun⟩ := (hping " 127.0.0.1" (.ofNat 2) 8 none).exists_asked (by decide +kernel)
    refine ⟨r, hrun, ?_⟩
    rw [hr.destination.text]
    decide +kernel
  · obtain ⟨c, hc, hrun⟩ := (hcommon "::1 " (.ofNat 2) 0).exists_asked (by decide +kernel)
    refine ⟨c, hrun, ?_⟩
    rw [hc.target.text]
    decide +kernel

end Prober

end HostProbe
