import HostProbe.Proofs.Ping.Calls
import HostProbe.Proofs.Ping.Result

namespace HostProbe.Ping

def Conditions.limiting (k : Conditions) (answer : Option Fault) : Conditions :=
  { k with hops := answer }

namespace Request

variable (r : Request) (k : Conditions)

def warning : Option Fault → List (Step Call)
  | none => []
  | some f => [.note (hopsNote f)]

theorem limitHops_of_none (h : r.hops = none) : r.limitHops k = [] := by
  rw [limitHops, h]

theorem limitHops_of_some {n : UInt8} (h : r.hops = some n) :
    r.limitHops k = .call (.setHops r.version n) :: warning k.hops := by
  rw [limitHops, h]
  cases k.hops <;> rfl

def exchange (s : Socket) : Traced Call Failure Binary64 :=
  (((r.transmit k).andThen fun _ => r.listen k s).after (r.findRoute k)).closing [.call .close]

theorem converse_eq (s : Socket) : r.converse k s = (r.exchange k s).after (r.limitHops k) := by
  simp only [converse, exchange, Traced.closing, Traced.after, List.append_assoc]

theorem exchange_limiting (answer : Option Fault) (s : Socket) :
    r.exchange (k.limiting answer) s = r.exchange k s := rfl

/-- The answer to the hop limit shows nowhere but in the steps of that request. -/
theorem probe_limiting_of_ready {mode : Icmp.Mode} (h : k.Ready mode) (answer : Option Fault) :
    r.probe (k.limiting answer) =
      ((r.exchange k (r.socket k mode)).after (r.limitHops (k.limiting answer))).after
        (Socket.ofOpening k.opening r.version).steps := by
  have ho := Socket.result_ofOpening h.grants h.nonblocking r.version
  have hp : r.probe (k.limiting answer) =
      (r.converse (k.limiting answer) (r.socket k mode)).after
        (Socket.ofOpening k.opening r.version).steps := Traced.andThen_of_ok ho
  rw [hp, converse_eq, exchange_limiting]

theorem probe_limiting_of_not_ready (h : ∀ mode, ¬ k.Ready mode) (answer : Option Fault) :
    r.probe (k.limiting answer) = r.probe k := by
  -- No socket is left to ask for a hop limit on.
  obtain ⟨e, he⟩ : ∃ e, (Socket.ofOpening k.opening r.version).result = .error e := by
    rcases k.opening.grants_or_refuses with ⟨mode, hm⟩ | ⟨e, hr⟩
    · cases hn : k.opening.nonblocking with
      | none => exact absurd ⟨hm, hn⟩ (h mode)
      | some f =>
          refine ⟨.ofFault "Failed to set non-blocking mode" f, ?_⟩
          rw [Socket.ofOpening, Traced.result_andThen (Socket.result_create hm r.version),
            Socket.prepare, hn]
    · refine ⟨e, ?_⟩
      rw [Socket.ofOpening, Traced.andThen_of_error (Socket.result_create_of_refuses hr r.version)]
  rw [probe, probe, Traced.andThen_of_error he]
  exact Traced.andThen_of_error he

variable {r k}

theorem probe_limiting_congr (answer other : Option Fault) :
    Step.calls (r.probe (k.limiting answer)).steps =
      Step.calls (r.probe (k.limiting other)).steps ∧
    (r.probe (k.limiting answer)).result = (r.probe (k.limiting other)).result := by
  by_cases h : ∃ mode, k.Ready mode
  · obtain ⟨mode, h⟩ := h
    simp only [probe_limiting_of_ready r k h, Traced.after, Step.calls_append, calls_limitHops,
      and_self]
  · rw [not_exists] at h
    rw [probe_limiting_of_not_ready r k h, probe_limiting_of_not_ready r k h]
    exact ⟨rfl, rfl⟩

theorem hopLimit_of_ping {result : Result} (h : r.ping k = .ok result) : result.hopLimit = r.hops := by
  obtain ⟨_, _, hanswered⟩ := exists_of_ping h
  exact (Result.of_eq_ok_iff.1 hanswered).2.hopLimit_eq

end Request

/-- A probe makes the same calls and comes to the same result, whether its hop limit is set or
refused with any fault. A result reports the hop limit that was asked for. The traces differ in one
warning behind the call, and in nothing where no hop limit is asked for or no socket is open to ask
on. -/
theorem hop_limit_lenient (r : Request) (k : Conditions) :
    (∀ answer other : Option Fault,
      Step.calls (r.probe (k.limiting answer)).steps =
        Step.calls (r.probe (k.limiting other)).steps ∧
      (r.probe (k.limiting answer)).result = (r.probe (k.limiting other)).result ∧
      r.ping (k.limiting answer) = r.ping (k.limiting other)) ∧
    (∀ answer result, r.ping (k.limiting answer) = .ok result → result.hopLimit = r.hops) ∧
    (∀ n mode, r.hops = some n → k.Ready mode → ∃ after, ∀ answer,
      (r.probe (k.limiting answer)).steps = (Socket.ofOpening k.opening r.version).steps ++
        .call (.setHops r.version n) :: (Request.warning answer ++ after)) ∧
    (r.hops = none ∨ (∀ mode, ¬ k.Ready mode) → ∀ answer,
      (r.probe (k.limiting answer)).steps = (r.probe k).steps) := by
  refine ⟨fun answer other => ?_, fun _ _ => Request.hopLimit_of_ping, ?_, ?_⟩
  · obtain ⟨hcalls, hresult⟩ := Request.probe_limiting_congr (r := r) (k := k) answer other
    exact ⟨hcalls, hresult, congrArg r.conclude hresult⟩
  · intro n mode hn h
    refine ⟨(r.exchange k (r.socket k mode)).steps, fun answer => ?_⟩
    rw [r.probe_limiting_of_ready k h, r.limitHops_of_some _ hn]
    rfl
  · intro h answer
    by_cases hr : ∃ mode, k.Ready mode
    · obtain ⟨mode, hr⟩ := hr
      have hn : r.hops = none := h.resolve_right fun h => h mode hr
      have hk : r.probe k = r.probe (k.limiting k.hops) := rfl
      rw [hk, r.probe_limiting_of_ready k hr, r.probe_limiting_of_ready k hr,
        r.limitHops_of_none _ hn, r.limitHops_of_none _ hn]
    · rw [r.probe_limiting_of_not_ready k (not_exists.1 hr)]

/-- A system that permits no hop limit, and one that sets it. -/
theorem hop_limit_lenient_nearby :
    let k := Conditions.answering none none 5
    Request.nearby.ping (k.limiting (some (.number 1))) = Request.nearby.ping (k.limiting none) ∧
    (∃ result, Request.nearby.ping (k.limiting (some (.number 1))) = .ok result ∧
      result.success = true ∧ result.hopLimit = some 64) ∧
    ∃ after, (Request.nearby.probe (k.limiting (some (.number 1)))).steps =
      (Socket.ofOpening k.opening .v4).steps ++ .call (.setHops .v4 64) ::
        .note (Request.hopsNote (.number 1)) :: after := by
  intro k
  obtain ⟨hsame, hreported, hwarned, _⟩ := hop_limit_lenient .nearby k
  obtain ⟨after, hafter⟩ := hwarned 64 .raw (by decide) ⟨.raw rfl, rfl⟩
  have hs : (Request.nearby.ping (k.limiting (some (.number 1)))).toOption.map Result.success =
      some true := by decide +kernel
  have hping : ∃ result, Request.nearby.ping (k.limiting (some (.number 1))) = .ok result ∧
      result.success = true ∧ result.hopLimit = some 64 := by
    cases hr : Request.nearby.ping (k.limiting (some (.number 1))) with
    | error e =>
        rw [hr] at hs
        cases hs
    | ok result =>
        rw [hr] at hs
        exact ⟨result, rfl, Option.some.inj hs, hreported _ _ hr⟩
  exact ⟨(hsame _ _).2.2, hping, after, hafter _⟩

end HostProbe.Ping
