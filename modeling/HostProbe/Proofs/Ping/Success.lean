import HostProbe.Ping.Probe
import HostProbe.Proofs.Binary64
import HostProbe.Proofs.Icmp.RoundTrip
import HostProbe.Proofs.Ping.Watch
import HostProbe.Rehearsal.Kernel

namespace HostProbe

theorem Traced.result_andThen {κ ε α β : Type} {t : Traced κ ε α} {a : α} (h : t.result = .ok a)
    (f : α → Traced κ ε β) : (t.andThen f).result = (f a).result := by
  rw [andThen, h]
  rfl

theorem HopLimit.toNat_byte (h : HopLimit) : h.byte.toNat = h.hops := by
  have hb : h.hops < 256 := Nat.lt_succ_of_le h.bounded
  exact UInt8.toNat_ofNat_of_lt' hb

theorem PacketSize.toNat_word (s : PacketSize) : s.word.toNat = s.bytes := by
  have hm : s.bytes < 65536 := Nat.lt_of_le_of_lt s.most (by decide)
  exact UInt16.toNat_ofNat_of_lt' hm

namespace Icmp

theorem Carriage.length_frame_le {version : Version} {layout : Layout} (c : Carriage version layout)
    (message : List UInt8) : (c.frame message).length ≤ message.length + 60 := by
  cases c with
  | alone => exact Nat.le_add_right _ _
  | behind header =>
      have hm := header.most
      rw [frame, List.length_append, header.length_bytes]
      omega

def turn (version : Version) (c0 c1 : UInt8) (packet : List UInt8) : List UInt8 :=
  ((packet.set 0 (Kind.of version).echoReply).set 2 c0).set 3 c1

def relabel (identifier : UInt16) (message : List UInt8) : List UInt8 :=
  message.take 4 ++ Bytes.bigEndian 2 identifier.toNat ++ message.drop 6

namespace Request

theorem turn_packet (r : Request) (c0 c1 : UInt8) :
    turn r.version c0 c1 r.packet = r.turned c0 c1 := rfl

theorem relabel_turned (r : Request) (identifier : UInt16) (c0 c1 : UInt8) :
    relabel identifier (r.turned c0 c1) = turned { r with identifier } c0 c1 := rfl

theorem length_turned (r : Request) (h : 8 ≤ r.size) (c0 c1 : UInt8) :
    (r.turned c0 c1).length = r.size + 8 := by
  simp only [turned, packet, withChecksum, payload, List.length_set, List.length_cons,
    List.length_append, Bytes.length_bigEndian, List.length_replicate]
  omega

end Request

namespace Matcher

variable {m : Matcher}

theorem version_alsoAccept (m : Matcher) (identifier : UInt16) :
    (m.alsoAccept identifier).version = m.version := by
  unfold alsoAccept
  split <;> rfl

theorem layout_alsoAccept (m : Matcher) (identifier : UInt16) :
    (m.alsoAccept identifier).layout = m.layout := by
  unfold alsoAccept
  split <;> rfl

theorem isOurs_own (m : Matcher) : m.isOurs m.identifier m.sequence = true := by
  simp only [isOurs, beq_self_eq_true, Bool.true_or, Bool.and_self]

theorem isOurs_alsoAccept (m : Matcher) (identifier : UInt16) :
    (m.alsoAccept identifier).isOurs identifier m.sequence = true := by
  unfold alsoAccept
  split
  · next h => exact h ▸ m.isOurs_own
  · simp only [isOurs, beq_self_eq_true, Bool.or_true, Bool.and_self]

theorem isOurs_own_alsoAccept (m : Matcher) (identifier : UInt16) :
    (m.alsoAccept identifier).isOurs m.identifier m.sequence = true := by
  unfold alsoAccept
  split
  · exact m.isOurs_own
  · simp only [isOurs, beq_self_eq_true, Bool.true_or, Bool.and_self]

theorem classify_turned {r : Request} {layout : Layout} (hv : m.version = r.version)
    (hl : m.layout = layout) (ho : m.isOurs r.identifier r.sequence = true)
    (c : Carriage r.version layout) (c0 c1 : UInt8) :
    m.classify (c.frame (r.turned c0 c1)) = .echoReply r.timestamp := by
  rw [m.classify_frame hl c (r.ofBytes?_turned c0 c1) (Kind.nibble_of_echo (.inl rfl)),
    m.judge_reply _ (by rw [hv]), judgeReply, if_pos ho, r.timestamp?_payload _ rfl]

end Matcher

end Icmp

namespace Ping

theorem Result.isTime_atLeastZero {x : Binary64} (h : x.magnitude < Binary64.infinite) :
    isTime x.atLeastZero = true := by
  unfold Binary64.atLeastZero
  split
  · next hp =>
      simp only [Binary64.lt, Bool.and_eq_true, decide_eq_true_eq] at hp
      have hn : Binary64.lt x .zero = false := by
        rw [Binary64.lt, decide_eq_false (Int.not_lt.2 (Int.le_of_lt hp.2)), Bool.and_false]
      rw [isTime, Binary64.isFinite, decide_eq_true h, hn]
      rfl
  · decide

theorem Watch.isTime_roundTrip (sent received : Time.Span) :
    Result.isTime (roundTrip sent.toBinary64 received.toBinary64) = true := by
  have hthousand := Binary64.within_ofNat_word (n := 1000) (by decide)
  have hsub := received.within_toBinary64.sub (by decide) sent.within_toBinary64
  have hmul := hsub.mul (by decide) hthousand (by decide) (m := 1156) (by decide)
  exact Result.isTime_atLeastZero (hmul.magnitude_lt (by decide))

/-- The mode of the socket that the system opens: a raw one, or a datagram one where it denies raw
ones. -/
inductive Opening.Grants (k : Opening) : Icmp.Mode → Prop where
  | raw (h : k.raw = none) : Grants k .raw
  | datagram {f : Fault} (hr : k.raw = some f) (hf : f.isDenied = true) (h : k.datagram = none) :
      Grants k .datagram

namespace Socket

variable {k : Opening} {mode : Icmp.Mode}

theorem result_create (h : k.Grants mode) (version : Version) :
    (create k version).result = .ok mode := by
  cases h with
  | raw h => rw [create, h]
  | datagram hr hf h => simp only [create, hr, if_pos hf, h]

theorem result_ofOpening (h : k.Grants mode) (hn : k.nonblocking = none) (version : Version) :
    (ofOpening k version).result = .ok ⟨version, mode, .of k.platform mode version⟩ := by
  rw [ofOpening, Traced.result_andThen (result_create h version), prepare, hn]

end Socket

namespace Request

variable (r : Request) (k : Conditions)

def socket (mode : Icmp.Mode) : Socket := ⟨r.version, mode, .of k.opening.platform mode r.version⟩

/-- The echo reply to the packet that a probe sends, as a socket of a mode is to deliver it. The
system puts the local port of a datagram socket in the place of the identifier. -/
inductive Reply : Icmp.Mode → List UInt8 → Prop where
  | raw (c0 c1 : UInt8) : Reply .raw (Icmp.turn r.version c0 c1 (r.packet k))
  | datagram {port : UInt16} (hk : k.localAddress = .ok (some port)) (hp : port ≠ 0)
      (c0 c1 : UInt8) : Reply .datagram (Icmp.relabel port (Icmp.turn r.version c0 c1 (r.packet k)))

structure Replied (s : Socket) (x : SystemRound) : Prop where
  cancelled : x.cancelled = false
  elapsed : x.elapsed < r.timeout.nanos
  poll : x.poll = .ok true
  receive : ∃ message, r.Reply k s.mode message ∧ ∃ (carriage : Icmp.Carriage r.version s.layout)
    (sender : Option Numeric), x.receive = .ok ⟨carriage.frame message, sender⟩

variable {r k} {s : Socket}

theorem version_matcher : (r.matcher k s).version = r.version := by
  unfold matcher
  dsimp only
  split
  · rfl
  · exact Icmp.Matcher.version_alsoAccept _ _

theorem layout_matcher : (r.matcher k s).layout = s.layout := by
  unfold matcher
  dsimp only
  split
  · rfl
  · exact Icmp.Matcher.layout_alsoAccept _ _

theorem Reply.exists_turned {message : List UInt8} (h : r.Reply k s.mode message) :
    ∃ (identifier : UInt16) (c0 c1 : UInt8),
      message = Icmp.Request.turned { r.echo k with identifier } c0 c1 ∧
        (r.matcher k s).isOurs identifier 0 = true := by
  obtain ⟨version, mode, layout⟩ := s
  cases h with
  | raw c0 c1 =>
      exact ⟨k.identifier, c0, c1, (r.echo k).turn_packet c0 c1, Icmp.Matcher.isOurs_own _⟩
  | @datagram port hk hp c0 c1 =>
      refine ⟨port, c0, c1, Icmp.Request.relabel_turned _ _ _ _, ?_⟩
      have hport : (askPort k .datagram).2 = some port := by
        rw [askPort, hk]
        exact if_neg hp
      rw [matcher, hport]
      exact Icmp.Matcher.isOurs_alsoAccept _ _

theorem Reply.length_frame_le {message : List UInt8} (h : r.Reply k s.mode message)
    (c : Icmp.Carriage r.version s.layout) : (c.frame message).length ≤ Watch.room := by
  obtain ⟨identifier, c0, c1, rfl, _⟩ := h.exists_turned
  have hl := c.length_frame_le (Icmp.Request.turned { r.echo k with identifier } c0 c1)
  have hmost := r.packetSize.most
  rw [Icmp.Request.length_turned _ r.packetSize.least] at hl
  change _ ≤ r.packetSize.bytes + 8 + 60 at hl
  change _ ≤ 4096
  omega

theorem Reply.classify {message : List UInt8} (h : r.Reply k s.mode message)
    (c : Icmp.Carriage r.version s.layout) :
    (r.matcher k s).classify (c.frame message) = .echoReply k.clock := by
  obtain ⟨identifier, c0, c1, rfl, hours⟩ := h.exists_turned
  exact Icmp.Matcher.classify_turned (r := { r.echo k with identifier }) version_matcher
    layout_matcher hours c c0 c1

theorem Replied.decides {x : SystemRound} (h : r.Replied k s x) :
    (r.watch k s).Decides x.round (.ok (Watch.roundTrip k.clock x.clock)) := by
  obtain ⟨message, hm, carriage, sender, hx⟩ := h.receive
  have hv : (r.watch k s).Receives x.round ⟨carriage.frame message, sender⟩ (.echoReply k.clock) := {
    cancelled := h.cancelled
    elapsed := h.elapsed
    ready := congrArg Socket.readable h.poll
    received := congrArg Socket.received hx
    verdict := by
      rw [List.take_of_length_le (hm.length_frame_le carriage)]
      exact hm.classify carriage }
  exact .echoReply hv

theorem result_converse (hs : k.send = none) :
    (r.converse k s).result = (r.listen k s).result := by
  have ht : (r.transmit k).result = .ok () := by rw [transmit, hs]
  exact Traced.result_andThen ht _

theorem result_listen {before after : List SystemRound} {last : SystemRound} {millis : Binary64}
    (hr : k.rounds r.version (r.packet k) = before ++ last :: after)
    (hb : ∀ x ∈ before, (r.watch k s).Idle x.round)
    (hl : (r.watch k s).Decides last.round (.ok millis)) : (r.listen k s).result = .ok millis := by
  change ((r.watch k s).await _).result = _
  rw [hr, List.map_append, List.map_cons, Watch.await,
    Watch.run_append_of_decides (List.forall_mem_map.2 hb) hl]

theorem conclude_ok {millis : Binary64} (h : Result.isTime millis = true) :
    r.conclude (.ok millis) = .ok ⟨.answered millis, r.hops, some r.packetSize.word⟩ := by
  simp only [conclude, Result.answered, Result.of, Result.outcomeOf, if_pos h, Option.isSome_none,
    Bool.false_eq_true, if_false]
  rfl

theorem toNat_hops : r.hops.map UInt8.toNat = r.hopLimit.map HopLimit.hops := by
  rw [hops, Option.map_map]
  exact Option.map_congr fun h _ => h.toNat_byte

end Request

def Request.nearby : Request where
  destination := ⟨"127.0.0.1", .v4 ⟨127, 0, 0, 1⟩⟩
  timeout := Watch.loopback.timeout
  packetSize := ⟨8, by decide, by decide⟩
  hopLimit := some ⟨64, by decide, by decide⟩

/-- A system that delivers an empty datagram first and then the echo reply, with another identifier
or behind a header of so many words. It cannot set hop limits. -/
def Conditions.answering (raw : Option Fault) (identifier : Option UInt16) (outer : Nat) :
    Conditions :=
  let script : Rehearsal.Script := {
    raw := raw
    datagram := none
    nonblocking := none
    hops := some (.bare .unsupported)
    send := none
    localAddress := .ok identifier
    cancelsOnSend := false
    events := [⟨.frame [], none, false⟩,
      ⟨.echo none ⟨identifier, 0, none⟩ none outer none, none, false⟩] }
  script.conditions false false

end Ping

end HostProbe
