import HostProbe.Proofs.Ping.Protocol

namespace HostProbe.Ping

theorem Request.send_mem_iff (r : Request) {k : Conditions} {mode : Icmp.Mode} (h : k.Ready mode)
    {packet : List UInt8} {destination : Numeric} :
    .send packet destination ∈ Step.calls (r.probe k).steps ↔
      packet = r.packet k ∧ destination = r.destination.numeric := by
  rw [(r.goes k).keeps.send_iff, and_iff_left ⟨mode, h⟩]

/-- A ping sends one packet to its destination, and succeeds when the reply to this packet comes in
before its time is up, after any datagrams that are of no concern to it. The socket may be of either
mode, the hop limit refused by the system and the reply behind any header that its socket delivers.
The clocks may show any spans of time. -/
theorem ping_answered (r : Request) (k : Conditions) (before after : List SystemRound)
    {last : SystemRound} {mode : Icmp.Mode} (hopen : k.opening.Grants mode)
    (hnonblocking : k.opening.nonblocking = none) (hsend : k.send = none)
    (hrounds : k.rounds r.version (r.packet k) = before ++ last :: after)
    (hbefore : ∀ x ∈ before, (r.watch k (r.socket k mode)).Idle x.round)
    (hlast : r.Replied k (r.socket k mode) last)
    (hclocks : ∃ sent received : Time.Span, k.clock = sent.toBinary64 ∧
      last.clock = received.toBinary64) :
    (∀ packet destination, .send packet destination ∈ Step.calls (r.probe k).steps ↔
      packet = r.packet k ∧ destination = r.destination.numeric) ∧
    ∃ result, r.ping k = .ok result ∧ result.success = true ∧ result.errorMessage = none ∧
      result.responseTime = some (Watch.roundTrip k.clock last.clock) ∧
      result.hopLimit.map UInt8.toNat = r.hopLimit.map HopLimit.hops ∧
      result.packetSize.map UInt16.toNat = some r.packetSize.bytes := by
  have hprobe : (r.probe k).result = .ok (Watch.roundTrip k.clock last.clock) := by
    rw [Request.probe, Traced.result_andThen (Socket.result_ofOpening hopen hnonblocking r.version),
      Request.result_converse hsend]
    exact Request.result_listen hrounds hbefore hlast.decides
  have htime : Result.isTime (Watch.roundTrip k.clock last.clock) = true := by
    obtain ⟨sent, received, hs, hr⟩ := hclocks
    rw [hs, hr]
    exact Watch.isTime_roundTrip sent received
  have hready : k.Ready mode := ⟨hopen, hnonblocking⟩
  refine ⟨fun _ _ => r.send_mem_iff hready, ⟨.answered _, r.hops, some r.packetSize.word⟩, ?_, rfl,
    rfl, rfl, Request.toNat_hops, congrArg some r.packetSize.toNat_word⟩
  rw [Request.ping, hprobe, Request.conclude_ok htime]

theorem ping_answered_nearby :
    (∃ result, Request.nearby.ping (.answering none none 15) = .ok result ∧
      result.success = true ∧ result.hopLimit.map UInt8.toNat = some 64) ∧
    ∃ result, Request.nearby.ping (.answering (some (.number 1)) (some 5000) 0) = .ok result ∧
      result.success = true ∧ result.packetSize.map UInt16.toNat = some 8 := by
  have hclock : Rehearsal.Script.clock =
      (⟨1750000000 * Time.second, by decide⟩ : Time.Span).toBinary64 := by decide +kernel
  have hbudget : Rehearsal.Script.pace < Request.nearby.timeout.nanos := by decide +kernel
  constructor
  · let sent := Request.nearby.packet (.answering none none 15)
    obtain ⟨_, result, hr, hs, _, _, hh, _⟩ := ping_answered .nearby (.answering none none 15)
      [_] [_] (.raw rfl) rfl rfl rfl
      (List.forall_mem_singleton.2 (.unrelated (d := ⟨[], none⟩) ⟨⟨rfl, hbudget⟩, rfl, rfl, rfl⟩))
      ⟨rfl, hbudget, rfl, _, .raw (sent.getD 2 0) (sent.getD 3 0),
        .behind ⟨15, List.replicate 59 0, by decide, by decide, by decide⟩, none, by decide +kernel⟩
      ⟨_, _, hclock, hclock⟩
    exact ⟨result, hr, hs, hh⟩
  · let sent := Request.nearby.packet (.answering (some (.number 1)) (some 5000) 0)
    obtain ⟨_, result, hr, hs, _, _, _, hp⟩ := ping_answered .nearby
      (.answering (some (.number 1)) (some 5000) 0)
      [_] [_] (.datagram rfl rfl rfl) rfl rfl rfl
      (List.forall_mem_singleton.2 (.unrelated (d := ⟨[], none⟩) ⟨⟨rfl, hbudget⟩, rfl, rfl, rfl⟩))
      ⟨rfl, hbudget, rfl, _, .datagram rfl (by decide) (sent.getD 2 0) (sent.getD 3 0),
        .alone _ _, none, by decide +kernel⟩
      ⟨_, _, hclock, hclock⟩
    exact ⟨result, hr, hs, hp⟩

end HostProbe.Ping
