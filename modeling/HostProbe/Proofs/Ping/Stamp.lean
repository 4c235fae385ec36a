import HostProbe.Proofs.Binary64.Overflow
import HostProbe.Proofs.Ping.Result
import HostProbe.Proofs.Ping.Room

namespace HostProbe

namespace Ping

namespace Watch

def endless : Nat := 9223372036854775 <<< 961

/-- No finite number is the milliseconds since a stamp. -/
inductive Overlong (sent received : Binary64) : Prop where
  | infinite (hi : sent.isInfinite = true) (hn : sent.negative = true)
  | finite (hf : sent.isFinite = true)
      (h : ((endless * Binary64.one : Nat) : Int) ≤ received.value - sent.value)

open Binary64 in
def thousandths (units : Nat) : Nat :=
  nearest (unitsAt (nearest units one) * (ofNat 1000).units) (one * one)

theorem thousandths_mono : Monotone thousandths := by
  intro a b h
  refine Binary64.nearest_mono _ (Nat.mul_le_mul_right _ ?_)
  exact Binary64.unitsAt_strictMono.monotone (Binary64.nearest_mono _ h)

theorem thousandths_eq_infinite_iff {units : Nat} :
    thousandths units = Binary64.infinite ↔ endless * Binary64.one ≤ units := by
  -- One value on each side of the bound is computed, the order settles all others.
  have hfirst : thousandths (endless * Binary64.one) = Binary64.infinite := by decide +kernel
  have hlast : thousandths (endless * Binary64.one - 1) < Binary64.infinite := by decide +kernel
  constructor
  · intro h
    by_contra hlt
    have hle := thousandths_mono (Nat.le_sub_one_of_lt (Nat.not_le.1 hlt))
    omega
  · intro h
    exact Nat.le_antisymm (Binary64.nearest_le_infinite _ _) (hfirst ▸ thousandths_mono h)

theorem thousandths_eq_infinite_of_nearest {units : Nat}
    (h : Binary64.nearest units Binary64.one = Binary64.infinite) :
    thousandths units = Binary64.infinite := by
  rw [thousandths, h]
  decide +kernel

theorem mul_thousand_eq_infinity_iff {x : Binary64} : x.mul (.ofNat 1000) = .infinity ↔
    x.negative = false ∧ (x.magnitude = Binary64.infinite ∨ x.magnitude < Binary64.infinite ∧
      Binary64.nearest (x.units * (Binary64.ofNat 1000).units) (Binary64.one * Binary64.one) =
        Binary64.infinite) :=
  Binary64.mul_eq_infinity_iff (by decide +kernel) (by decide +kernel) (by decide +kernel)

theorem ofUnits_mul_thousand_iff (value : Int) (zeroNegative : Bool) :
    (Binary64.ofUnits zeroNegative value).mul (.ofNat 1000) = .infinity ↔
      ((endless * Binary64.one : Nat) : Int) ≤ value := by
  have hpos : 0 < endless * Binary64.one := by decide +kernel
  rw [mul_thousand_eq_infinity_iff]
  rcases Int.lt_or_le 0 value with h | h
  · have hnearest := Binary64.nearest_lt_signBit value.toNat Binary64.one
    have hle := Binary64.nearest_le_infinite value.toNat Binary64.one
    rw [Binary64.ofUnits_of_pos h, Binary64.negative_ofMagnitude hnearest, Binary64.units_eq,
      Binary64.magnitude_ofMagnitude hnearest, ← Int.le_toNat (Int.le_of_lt h),
      ← thousandths_eq_infinite_iff, eq_self, true_and]
    constructor
    · rintro (hi | ⟨_, hi⟩)
      · exact thousandths_eq_infinite_of_nearest hi
      · exact hi
    · intro hi
      exact (Nat.eq_or_lt_of_le hle).imp_right fun hlt => ⟨hlt, hi⟩
  · -- What is not above zero stays so.
    refine iff_of_false ?_ (by omega)
    rintro ⟨hn, hi⟩
    rcases Binary64.ofUnits_of_nonpos h zeroNegative with hneg | hzero
    · rw [hneg] at hn
      cases hn
    · rw [Binary64.units_eq, hzero] at hi
      revert hi
      decide +kernel

theorem Overlong.not_isNaN {sent received : Binary64} (h : Overlong sent received) :
    sent.isNaN = false := by
  cases h with
  | infinite hi => exact decide_eq_false (Nat.not_lt.2 (Nat.le_of_eq (of_decide_eq_true hi)))
  | finite hf => exact Binary64.not_isNaN (Binary64.isFinite_iff.1 hf)

theorem roundTrip_eq_infinity_iff {sent received : Binary64} (hr : received.isFinite = true) :
    roundTrip sent received = .infinity ↔ Overlong sent received := by
  rw [roundTrip, Binary64.atLeastZero_eq_infinity_iff]
  rcases sent.isNaN_or with hs | hs | hs
  · rw [Binary64.sub_of_isNaN hs]
    refine iff_of_false (by decide) fun h => ?_
    rw [h.not_isNaN] at hs
    cases hs
  · have hm : sent.magnitude = Binary64.infinite := of_decide_eq_true hs
    rw [Binary64.sub_of_isInfinite hr hs, mul_thousand_eq_infinity_iff, Binary64.negative_neg,
      Binary64.magnitude_neg, Bool.not_eq_false']
    constructor
    · rintro ⟨hn, _⟩
      exact .infinite hs hn
    · rintro (⟨_, hn⟩ | ⟨hf, _⟩)
      · exact ⟨hn, .inl hm⟩
      · exact absurd hm (Nat.ne_of_lt (Binary64.isFinite_iff.1 hf))
  · rw [Binary64.sub_of_isFinite hr hs, ofUnits_mul_thousand_iff]
    refine ⟨.finite hs, ?_⟩
    rintro (⟨hi, _⟩ | ⟨_, h⟩)
    · exact absurd (of_decide_eq_true hi) (Nat.ne_of_lt (Binary64.isFinite_iff.1 hs))
    · exact h

/-- A round trip is a number from zero upwards, and infinite for overlong spans only. -/
theorem isTime_roundTrip_iff {sent received : Binary64} (hr : received.isFinite = true) :
    Result.isTime (roundTrip sent received) = true ↔ ¬ Overlong sent received := by
  obtain ⟨hnan, hzero⟩ : (roundTrip sent received).isNaN = false ∧
    Binary64.lt (roundTrip sent received) .zero = false := Binary64.atLeastZero_nonneg _
  rw [← roundTrip_eq_infinity_iff hr, Result.isTime, hzero, Bool.not_false, Bool.and_true]
  constructor
  · intro hf hi
    rw [hi] at hf
    exact absurd hf (by decide)
  · intro hi
    exact (Binary64.isFinite_or_eq_infinity hnan hzero).resolve_right hi

end Watch

namespace Request

variable {r : Request} {k : Conditions} {s : Socket} {last : SystemRound} {sent : Binary64}

structure Answered (r : Request) (k : Conditions) (s : Socket) (last : SystemRound)
    (sent : Binary64) : Prop where
  cancelled : last.cancelled = false
  elapsed : last.elapsed < r.timeout.nanos
  poll : last.poll = .ok true
  receive : ∃ datagram message, last.receive = .ok datagram ∧
    Icmp.Message.ofFrame? s.layout datagram.bytes = some message ∧
    message.kind = (Icmp.Kind.of r.version).echoReply ∧ message.sequence = 0 ∧
    (message.identifier = k.identifier ∨ (askPort k s.mode).2 = some message.identifier) ∧
    message.timestamp? = some sent

theorem isOurs_matcher {identifier : UInt16}
    (h : identifier = k.identifier ∨ (askPort k s.mode).2 = some identifier) :
    (r.matcher k s).isOurs identifier 0 = true := by
  unfold matcher
  dsimp only
  rcases h with rfl | h
  · split
    · exact Icmp.Matcher.isOurs_own _
    · exact Icmp.Matcher.isOurs_own_alsoAccept _ _
  · rw [h]
    exact Icmp.Matcher.isOurs_alsoAccept _ _

theorem Answered.decides (h : r.Answered k s last sent) :
    (r.watch k s).Decides last.round (.ok (Watch.roundTrip sent last.clock)) := by
  obtain ⟨datagram, message, hreceive, hframe, hkind, hsequence, hidentifier, hstamp⟩ := h.receive
  have hours : (r.matcher k s).isOurs message.identifier message.sequence = true :=
    hsequence ▸ isOurs_matcher hidentifier
  have hkind : message.kind = (Icmp.Kind.of (r.matcher k s).version).echoReply := by
    rw [version_matcher, hkind]
  have hv : (r.matcher k s).classify datagram.bytes = .echoReply sent := by
    rw [Icmp.Matcher.classify, layout_matcher, hframe]
    dsimp only
    rw [Icmp.Matcher.judge_reply _ _ hkind, Icmp.Matcher.judgeReply, if_pos hours, hstamp]
  have hr : (r.watch k s).Receives last.round datagram (.echoReply sent) := Watch.receives_iff.2
    ⟨⟨h.cancelled, h.elapsed⟩, congrArg Socket.readable h.poll, congrArg Socket.received hreceive, hv⟩
  exact .echoReply hr

theorem result_probe_of_answered (before after : List SystemRound) {mode : Icmp.Mode}
    (hopen : k.opening.Grants mode) (hnonblocking : k.opening.nonblocking = none)
    (hsend : k.send = none) (hrounds : k.rounds r.version (r.packet k) = before ++ last :: after)
    (hbefore : ∀ x ∈ before, (r.watch k (r.socket k mode)).Idle x.round)
    (hlast : r.Answered k (r.socket k mode) last sent) :
    (r.probe k).result = .ok (Watch.roundTrip sent last.clock) := by
  rw [probe, Traced.result_andThen (Socket.result_ofOpening hopen hnonblocking r.version),
    result_converse hsend]
  exact result_listen hrounds hbefore hlast.decides

theorem conclude_infinity : r.conclude (.ok .infinity) = .error (.network
    "Invalid ping result: response time must be a non-negative number, got inf") := by
  have hinfinity : Result.isTime .infinity = false := by decide
  simp only [conclude, Result.answered, Result.of, Result.outcomeOf, hinfinity, Bool.false_eq_true,
    if_false]
  rfl

end Request

/-- A probe ends at the reply under its identifier, with the time since the stamp that it carries,
whatever bits that has. The time is no NaN and not below zero. The ping succeeds with it unless the
stamp lies too far back: then the time is infinite, which no result admits, and the ping fails. -/
theorem ping_stamped (r : Request) (k : Conditions) (before after : List SystemRound)
    {last : SystemRound} {mode : Icmp.Mode} {sent : Binary64} (hopen : k.opening.Grants mode)
    (hnonblocking : k.opening.nonblocking = none) (hsend : k.send = none)
    (hrounds : k.rounds r.version (r.packet k) = before ++ last :: after)
    (hbefore : ∀ x ∈ before, (r.watch k (r.socket k mode)).Idle x.round)
    (hlast : r.Answered k (r.socket k mode) last sent) (hclock : last.clock.isFinite = true) :
    (r.probe k).result = .ok (Watch.roundTrip sent last.clock) ∧
    (Watch.roundTrip sent last.clock).isNaN = false ∧
    Binary64.lt (Watch.roundTrip sent last.clock) .zero = false ∧
    (¬ Watch.Overlong sent last.clock →
      (Watch.roundTrip sent last.clock).isFinite = true ∧
      0 ≤ (Watch.roundTrip sent last.clock).value ∧
      ∃ result, r.ping k = .ok result ∧ result.success = true ∧ result.errorMessage = none ∧
        result.responseTime = some (Watch.roundTrip sent last.clock) ∧
        result.hopLimit.map UInt8.toNat = r.hopLimit.map HopLimit.hops ∧
        result.packetSize.map UInt16.toNat = some r.packetSize.bytes) ∧
    (Watch.Overlong sent last.clock →
      Watch.roundTrip sent last.clock = .infinity ∧
      r.ping k = .error (.network
        "Invalid ping result: response time must be a non-negative number, got inf")) := by
  have hprobe := Request.result_probe_of_answered before after hopen hnonblocking hsend hrounds hbefore
    hlast
  obtain ⟨hnan, hzero⟩ : (Watch.roundTrip sent last.clock).isNaN = false ∧
    Binary64.lt (Watch.roundTrip sent last.clock) .zero = false := Binary64.atLeastZero_nonneg _
  refine ⟨hprobe, hnan, hzero, fun h => ?_, fun h => ?_⟩
  · have htime := (Watch.isTime_roundTrip_iff hclock).2 h
    obtain ⟨hfinite, hvalue⟩ := Result.isTime_iff.1 htime
    refine ⟨hfinite, hvalue, ⟨.answered _, r.hops, some r.packetSize.word⟩, ?_, rfl, rfl, rfl,
      Request.toNat_hops, congrArg some r.packetSize.toNat_word⟩
    rw [Request.ping, hprobe, Request.conclude_ok htime]
  · have hinfinity := (Watch.roundTrip_eq_infinity_iff hclock).2 h
    refine ⟨hinfinity, ?_⟩
    rw [Request.ping, hprobe, hinfinity, Request.conclude_infinity]

def Conditions.stamped (stamp : Binary64) : Conditions :=
  let script : Rehearsal.Script := {
    raw := none
    datagram := none
    nonblocking := none
    hops := none
    send := none
    localAddress := .ok none
    cancelsOnSend := false
    events := [⟨.echo none ⟨none, 0, none⟩ (some stamp) 5 none, none, false⟩] }
  script.conditions false false

theorem answered_stamped (stamp : Binary64) : ∃ last after,
    (Conditions.stamped stamp).rounds .v4 (Request.nearby.packet (.stamped stamp)) = last :: after ∧
    last.clock = Rehearsal.Script.clock ∧ Request.nearby.Answered (.stamped stamp)
      (Request.nearby.socket (.stamped stamp) .raw) last stamp := by
  have hpacket : Request.nearby.packet (.stamped stamp) =
      [8, 0, 37, 96, 29, 13, 0, 0, 65, 218, 19, 184, 96, 0, 0, 0] := by
    change Request.nearby.packet (.stamped .zero) = _
    decide +kernel
  have hbudget : Rehearsal.Script.pace < Request.nearby.timeout.nanos := by decide +kernel
  let frame := Rehearsal.header 5 ++
    ([0, 0, 37, 96, 29, 13, 0, 0] ++ Bytes.bigEndian 8 stamp.bits.toNat)
  let message : Icmp.Message :=
    ⟨0, 0, Bytes.word 37 96, Bytes.word 29 13, Bytes.word 0 0, Bytes.bigEndian 8 stamp.bits.toNat⟩
  have hframe : Icmp.Message.ofFrame? .ipv4Header frame = some message := rfl
  have hstamp : message.timestamp? = some stamp :=
    Icmp.Request.timestamp?_payload ⟨.v4, 0, 0, 8, stamp, none⟩ message rfl
  have hreceive : Rehearsal.Event.answer .v4 (Request.nearby.packet (.stamped stamp))
      ⟨.echo none ⟨none, 0, none⟩ (some stamp) 5 none, none, false⟩ = .ok ⟨frame, none⟩ := by
    rw [hpacket]
    rfl
  have hidentifier : Bytes.word 29 13 = 0x1d0d := by decide
  have hsequence : Bytes.word 0 0 = 0 := by decide
  exact ⟨_, _, rfl, rfl, ⟨rfl, hbudget, rfl, _, _, hreceive, hframe, rfl, hsequence,
    .inl hidentifier, hstamp⟩⟩

def longAgo : Binary64 := ⟨0xff76c8e5ca239029⟩

theorem overlong_longAgo : Watch.Overlong longAgo Rehearsal.Script.clock :=
  .finite (by decide) (by decide +kernel)

/-- A stamp that is no number, and one that lies too far back. -/
theorem ping_stamped_nearby :
    (∃ result, Request.nearby.ping (.stamped .nan) = .ok result ∧ result.success = true ∧
      result.responseTime = some (Watch.roundTrip .nan Rehearsal.Script.clock)) ∧
    Request.nearby.ping (.stamped longAgo) = .error (.network
      "Invalid ping result: response time must be a non-negative number, got inf") := by
  have hfinite : Rehearsal.Script.clock.isFinite = true := by decide +kernel
  constructor
  · obtain ⟨last, after, hrounds, hclock, hlast⟩ := answered_stamped .nan
    obtain ⟨_, _, _, hanswered, _⟩ := ping_stamped .nearby (.stamped .nan) [] after (.raw rfl) rfl rfl
      hrounds (List.forall_mem_nil _) hlast (hclock ▸ hfinite)
    obtain ⟨_, _, result, hr, hs, _, ht, _⟩ := hanswered fun h => absurd h.not_isNaN (by decide)
    exact ⟨result, hr, hs, hclock ▸ ht⟩
  · obtain ⟨last, after, hrounds, hclock, hlast⟩ := answered_stamped longAgo
    obtain ⟨_, _, _, _, hfailed⟩ := ping_stamped .nearby (.stamped longAgo) [] after (.raw rfl) rfl
      rfl hrounds (List.forall_mem_nil _) hlast (hclock ▸ hfinite)
    exact (hfailed (hclock ▸ overlong_longAgo)).2

/-- Not every reply to a probe makes its ping succeed. -/
theorem not_forall_stamped_ok : ¬ ∀ (r : Request) (k : Conditions) (before after : List SystemRound)
    (last : SystemRound) (mode : Icmp.Mode) (sent : Binary64), k.opening.Grants mode →
      k.opening.nonblocking = none → k.send = none →
      k.rounds r.version (r.packet k) = before ++ last :: after →
      (∀ x ∈ before, (r.watch k (r.socket k mode)).Idle x.round) →
      r.Answered k (r.socket k mode) last sent → last.clock.isFinite = true →
      ∃ result, r.ping k = .ok result ∧ result.success = true := by
  intro h
  obtain ⟨last, after, hrounds, hclock, hlast⟩ := answered_stamped longAgo
  have hfinite : last.clock.isFinite = true := by
    rw [hclock]
    decide +kernel
  have hinfinity := (Watch.roundTrip_eq_infinity_iff hfinite).2 (hclock ▸ overlong_longAgo)
  obtain ⟨result, hr, _⟩ := h .nearby (.stamped longAgo) [] after last .raw longAgo (.raw rfl) rfl rfl
    hrounds (List.forall_mem_nil _) hlast hfinite
  have hprobe : (Request.nearby.probe (.stamped longAgo)).result =
      .ok (Watch.roundTrip longAgo last.clock) :=
    Request.result_probe_of_answered [] after (.raw rfl) rfl rfl hrounds (List.forall_mem_nil _) hlast
  rw [Request.ping, hprobe, hinfinity, Request.conclude_infinity] at hr
  cases hr

end Ping

end HostProbe
