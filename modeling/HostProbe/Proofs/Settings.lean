import HostProbe.Proofs.Ping.Denial
import HostProbe.Proofs.Prober
import HostProbe.Proofs.Scan.Sweep

namespace HostProbe

variable {why : Refusal}

theorem eq_of_refusal?_dite {α : Type} {P : Prop} [Decidable P] {a : P → α} {other : Refusal}
    (h : refusal? (if hp : P then .ok (a hp) else .error other) = some why) : why = other := by
  split at h <;> cases h
  rfl

theorem Timeout.eq_of_refusal? {x : Binary64} (h : refusal? (of x) = some why) :
    why = .timeout x := eq_of_refusal?_dite h

theorem PacketSize.eq_of_refusal? {n : Nat} (h : refusal? (of n) = some why) :
    why = .packetSize n := eq_of_refusal?_dite h

theorem HopLimit.exists_of_refusal? {n : Option Nat} (h : refusal? (ofOption n) = some why) :
    ∃ hops, n = some hops ∧ why = .hopLimit hops := by
  cases n with
  | none => cases h
  | some hops =>
      rw [ofOption, refusal?_map] at h
      exact ⟨hops, rfl, eq_of_refusal?_dite h⟩

namespace Ping

variable {address : String} {timeout : Binary64} {packetSize : Nat} {hopLimit : Option Nat}

/-- A limit that is refused makes the input of a ping invalid; it is no matter of an address. -/
theorem Failure.ofRefusal_limit
    (h : firstRefusal? (limitChecks timeout packetSize hopLimit) = some why) :
    ofRefusal why = .input why := by
  have hmem := mem_of_firstRefusal? h
  simp only [limitChecks, List.mem_cons, List.not_mem_nil, or_false] at hmem
  rcases hmem with hc | hc | hc
  · rw [Timeout.eq_of_refusal? hc.symm]
    rfl
  · rw [PacketSize.eq_of_refusal? hc.symm]
    rfl
  · obtain ⟨hops, _, rfl⟩ := HopLimit.exists_of_refusal? hc.symm
    rfl

theorem Request.firstRefusal?_checks {x : Address} (h : Address.parse address = .ok x) :
    firstRefusal? (checks address timeout packetSize hopLimit) =
      firstRefusal? (limitChecks timeout packetSize hopLimit) := by
  rw [checks, h]
  rfl

end Ping

namespace Scan

def concurrencyRefusal? (maxConcurrent : Nat) : Option Refusal :=
  if maxConcurrent = 0 then some (.concurrency 0) else none

theorem concurrencyRefusal?_eq_some_iff {maxConcurrent : Nat} :
    concurrencyRefusal? maxConcurrent = some why ↔ maxConcurrent = 0 ∧ .concurrency 0 = why := by
  rw [concurrencyRefusal?, Option.ite_none_right_eq_some, Option.some.injEq]

theorem concurrencyRefusal?_eq_none_iff {maxConcurrent : Nat} :
    concurrencyRefusal? maxConcurrent = none ↔ 0 < maxConcurrent := by
  rw [concurrencyRefusal?, ite_eq_right_iff, Nat.pos_iff_ne_zero]
  exact ⟨fun h hz => Option.some_ne_none _ (h hz), fun h hz => absurd hz h⟩

theorem CommonRequest.firstRefusal?_checks {address : String} {timeout : Binary64} {x : Address}
    (h : Address.parse address = .ok x) :
    firstRefusal? (checks address timeout) = refusal? (Timeout.of timeout) := by
  rw [checks, h]
  cases refusal? (Timeout.of timeout) <;> rfl

namespace RangeRequest

variable {σ : Type} {q : RangeRequest}

theorem exists_run_eq_of_zero (hq : q.maxConcurrent = 0) (n : Network σ) :
    ∃ journal, q.run n = (.error (.input (.concurrency 0)), { n with journal }) := by
  have hlist : q.list.run n = (.error (.input (.concurrency 0)), n) := if_pos hq
  obtain ⟨journal, h⟩ := q.exists_run_eq n
  rw [hlist] at h
  exact ⟨journal, h⟩

/-- Past the check of its limit on attempts a scan never finds fault with its request. -/
theorem run_ne_input (hq : 0 < q.maxConcurrent) (n : Network σ) (why : Refusal) :
    (q.run n).1 ≠ .error (.input why) := by
  obtain ⟨journal, h⟩ := q.exists_run_eq n
  obtain ⟨made, haccord⟩ := q.list.exists_accord n hq
  intro he
  rw [h] at he
  cases ho : (q.list.run n).1 with
  | ok findings =>
      rw [ho] at he
      cases he
  | error e =>
      rw [ho] at he
      cases he
      rcases (haccord.failure _ ho).1 with ⟨_, h⟩ | ⟨_, h⟩ <;> cases h

end RangeRequest

end Scan

namespace Settings

def pingChecks (s : Settings) : List (Option Refusal) :=
  Ping.limitChecks s.ping.timeout s.ping.packetSize s.ping.hopLimit

def scanChecks (s : Settings) : List (Option Refusal) :=
  [refusal? s.scanTimeout, Scan.concurrencyRefusal? s.scan.maxConcurrent]

theorem firstRefusal?_scanChecks (s : Settings) : firstRefusal? s.scanChecks =
    (refusal? s.scanTimeout).or (Scan.concurrencyRefusal? s.scan.maxConcurrent) := by
  rw [scanChecks]
  cases refusal? s.scanTimeout with
  | some why => rfl
  | none => cases Scan.concurrencyRefusal? s.scan.maxConcurrent <;> rfl

theorem checked_validate (s : Settings) :
    Checked (s.pingChecks ++ s.scanChecks) (fun _ => True) s.validate := by
  refine (Timeout.checked_of s.ping.timeout).bind fun _ _ => ?_
  refine (PacketSize.checked_of s.ping.packetSize).bind fun _ _ => ?_
  refine (HopLimit.checked_ofOption s.ping.hopLimit).bind fun _ _ => ?_
  refine (Timeout.checked_of s.scan.timeout).bind fun _ _ => ?_
  rw [Scan.concurrencyRefusal?]
  split
  · exact .refused rfl
  · exact .admitted rfl trivial

theorem validate_eq_error_iff {s : Settings} : s.validate = .error why ↔
    firstRefusal? s.pingChecks = some why ∨
      firstRefusal? s.pingChecks = none ∧ firstRefusal? s.scanChecks = some why := by
  rw [s.checked_validate.eq_error_iff, firstRefusal?_append, Option.or_eq_some_iff]

end Settings

namespace Prober

variable {address : String} {x : Address}

section Ping

variable {m : Type → Type} [Monad m] {p : Prober m}

theorem pingHost_eq_of_refused (ha : Address.parse address = .ok x)
    (h : firstRefusal? p.settings.pingChecks = some why) :
    p.pingHost address = pure (.error (.input why)) := by
  rw [← Ping.Failure.ofRefusal_limit h]
  exact askWith_eq_of_refused (Ping.Request.checked_of address _ _ _)
    ((Ping.Request.firstRefusal?_checks ha).trans h)

theorem exists_pingHost_eq (ha : Address.parse address = .ok x)
    (h : firstRefusal? p.settings.pingChecks = none) :
    ∃ request, p.pingHost address = p.pinger.one request := by
  have hask : ∃ request, _ ∧ p.pingHost address = p.pinger.one request :=
    exists_askWith_eq (Ping.Request.checked_of address _ _ _)
      ((Ping.Request.firstRefusal?_checks ha).trans h)
  exact hask.imp fun _ => And.right

end Ping

section Scan

variable {σ : Type} {p : Prober (StateM (Scan.Network σ))}

theorem exists_scanHost_eq (hs : p.scanner = .onNetwork) (ha : Address.parse address = .ok x)
    (h : refusal? p.settings.scanTimeout = none) : ∃ request : Scan.RangeRequest,
      request.maxConcurrent = p.settings.scan.maxConcurrent ∧ p.scanHost address = request.run := by
  have hask : ∃ request, _ ∧ p.scanHost address = p.scanner.common request :=
    exists_askWith_eq (Scan.CommonRequest.checked_of address _ _)
      ((Scan.CommonRequest.firstRefusal?_checks ha).trans h)
  obtain ⟨request, hr, hask⟩ := hask
  rw [hs] at hask
  exact ⟨request.ranged, hr.maxConcurrent, hask⟩

theorem scanHost_eq_of_refused (hs : p.scanner = .onNetwork) (ha : Address.parse address = .ok x)
    (h : firstRefusal? p.settings.scanChecks = some why) (n : Scan.Network σ) :
    ∃ journal, p.scanHost address n = (.error (.input why), { n with journal }) := by
  rw [Settings.firstRefusal?_scanChecks, Option.or_eq_some_iff,
    Scan.concurrencyRefusal?_eq_some_iff] at h
  rcases h with ht | ⟨ht, hzero, rfl⟩
  · have hask : p.scanHost address = pure (.error (.ofRefusal why)) :=
      askWith_eq_of_refused (Scan.CommonRequest.checked_of address _ _)
        ((Scan.CommonRequest.firstRefusal?_checks ha).trans ht)
    cases Timeout.eq_of_refusal? ht
    exact ⟨n.journal, congrFun hask n⟩
  · obtain ⟨request, hmax, hrun⟩ := exists_scanHost_eq hs ha ht
    rw [hrun]
    exact Scan.RangeRequest.exists_run_eq_of_zero (hmax.trans hzero) n

theorem scanHost_ne_input (hs : p.scanner = .onNetwork) (ha : Address.parse address = .ok x)
    (h : firstRefusal? p.settings.scanChecks = none) (n : Scan.Network σ) (why : Refusal) :
    (p.scanHost address n).1 ≠ .error (.input why) := by
  rw [Settings.firstRefusal?_scanChecks, Option.or_eq_none_iff,
    Scan.concurrencyRefusal?_eq_none_iff] at h
  obtain ⟨request, hmax, hrun⟩ := exists_scanHost_eq hs ha h.1
  rw [hrun]
  exact request.run_ne_input (hmax ▸ h.2) n why

theorem scanHost_eq_input_iff (hs : p.scanner = .onNetwork) (ha : Address.parse address = .ok x)
    (n : Scan.Network σ) : (p.scanHost address n).1 = .error (.input why) ↔
      firstRefusal? p.settings.scanChecks = some why := by
  cases h : firstRefusal? p.settings.scanChecks with
  | none => exact iff_of_false (scanHost_ne_input hs ha h n why) nofun
  | some other =>
      obtain ⟨journal, hrun⟩ := scanHost_eq_of_refused hs ha h n
      rw [hrun, Option.some.injEq, Except.error.injEq, Scan.Failure.input.injEq]

theorem pingHost_eq_input_iff
    (hp : ∀ request n why, (p.pinger.one request n).1 ≠ .error (.input why))
    (ha : Address.parse address = .ok x) (n : Scan.Network σ) :
    (p.pingHost address n).1 = .error (.input why) ↔
      firstRefusal? p.settings.pingChecks = some why := by
  cases h : firstRefusal? p.settings.pingChecks with
  | none =>
      obtain ⟨request, hask⟩ := exists_pingHost_eq ha h
      rw [hask]
      exact iff_of_false (hp request n why) nofun
  | some other =>
      have hrun : p.pingHost address n = (.error (.input other), n) :=
        congrFun (pingHost_eq_of_refused ha h) n
      rw [hrun, Option.some.injEq, Except.error.injEq, Ping.Failure.input.injEq]

end Scan

/-- To validate settings is to find out what a ping or else a scan with them would refuse as invalid
input, with the same first refusal. With valid settings neither is refused so. With others one of
the two is, before it sends or connects. -/
theorem validate_agrees {σ : Type} (p : Prober (StateM (Scan.Network σ)))
    (hs : p.scanner = .onNetwork)
    (hp : ∀ request n why, (p.pinger.one request n).1 ≠ .error (.input why))
    (address : String) (x : Address) (ha : Address.parse address = .ok x) (n n' : Scan.Network σ) :
    (∀ why, p.settings.validate = .error why ↔
      (p.pingHost address n).1 = .error (.input why) ∨
      (∀ other, (p.pingHost address n).1 ≠ .error (.input other)) ∧
        (p.scanHost address n').1 = .error (.input why)) ∧
    (p.settings.validate = .ok () → ∀ why, (p.pingHost address n).1 ≠ .error (.input why) ∧
      (p.scanHost address n').1 ≠ .error (.input why)) ∧
    ∀ why, p.settings.validate = .error why →
      p.pingHost address = pure (.error (.input why)) ∨
      ∃ journal, p.scanHost address n' = (.error (.input why), { n' with journal }) := by
  have hping (why : Refusal) : (p.pingHost address n).1 = .error (.input why) ↔
      firstRefusal? p.settings.pingChecks = some why := pingHost_eq_input_iff hp ha n
  have hscan (why : Refusal) : (p.scanHost address n').1 = .error (.input why) ↔
      firstRefusal? p.settings.scanChecks = some why := scanHost_eq_input_iff hs ha n'
  have hiff (why : Refusal) : p.settings.validate = .error why ↔
      (p.pingHost address n).1 = .error (.input why) ∨
      (∀ other, (p.pingHost address n).1 ≠ .error (.input other)) ∧
        (p.scanHost address n').1 = .error (.input why) := by
    simp only [ne_eq, hping, hscan]
    rw [Settings.validate_eq_error_iff, Option.eq_none_iff_forall_ne_some]
  refine ⟨hiff, ?_, ?_⟩
  · intro hv
    have hadmits (why : Refusal) : (p.pingHost address n).1 ≠ .error (.input why) := by
      intro h
      cases hv.symm.trans ((hiff why).2 (.inl h))
    intro why
    refine ⟨hadmits why, fun h => ?_⟩
    cases hv.symm.trans ((hiff why).2 (.inr ⟨hadmits, h⟩))
  · intro why hv
    rcases Settings.validate_eq_error_iff.1 hv with h | ⟨_, h⟩
    · exact .inl (pingHost_eq_of_refused ha h)
    · exact .inr (scanHost_eq_of_refused hs ha h n')

def motionless : Prober (StateM (Scan.Network Ping.System)) where
  pinger :=
    { one := fun request n =>
        let (result, state) := request.run n.state
        (result, { n with state })
      many := fun request n =>
        let (results, state) := request.run n.state
        (results, { n with state }) }
  scanner := .onNetwork
  settings := Settings.builtin.withMaxConcurrent 0

def unrouted : Scan.Network Ping.System :=
  { Scan.Network.prompt with
    connect := fun s _ _ => (⟨1, .ok ()⟩, s)
    state := { conditions := Ping.BatchRequest.blocked (.number 113) } }

/-- A prober that may try no port pings as ever and finds fault with a scan before it connects. -/
theorem validate_agrees_motionless :
    (motionless.pingHost "127.0.0.1" unrouted).1 =
      .error (.unreachable "Failed to send echo request: No route to host (os error 113)") ∧
    ∃ journal, motionless.scanHost "127.0.0.1" unrouted =
      (.error (.input (.concurrency 0)), { unrouted with journal }) := by
  have haddress : Address.parse "127.0.0.1" = .ok Scan.ListRequest.oneByOne.target := by decide +kernel
  have hping : (motionless.pingHost "127.0.0.1" unrouted).1 =
      .error (.unreachable "Failed to send echo request: No route to host (os error 113)") := by
    decide +kernel
  obtain ⟨_, _, hrefuses⟩ := validate_agrees motionless rfl
    (fun request n why => request.ping_ne_input _ why) "127.0.0.1" _ haddress unrouted unrouted
  refine ⟨hping, ?_⟩
  rcases hrefuses (.concurrency 0) (by decide +kernel) with h | h
  · rw [h] at hping
    cases hping
  · exact h

end Prober

end HostProbe
