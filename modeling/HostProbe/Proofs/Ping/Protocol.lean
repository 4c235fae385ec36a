import HostProbe.Proofs.Icmp.Request
import HostProbe.Proofs.Ping.Hearing

namespace HostProbe.Ping

theorem Failure.isDenied_of_isFatal {doing : String} {f : Fault}
    (h : (ofFault doing f).isFatal = true) : f.isDenied = true := by
  by_contra hf
  rw [ofFault, if_neg hf] at h
  split at h <;> cases h

theorem Failure.ofFault_permission_iff {doing : String} {f : Fault} :
    (∃ text, ofFault doing f = .permission text) ↔ f.isDenied = true := by
  constructor
  · rintro ⟨text, h⟩
    exact isDenied_of_isFatal (congrArg isFatal h)
  · intro hf
    exact ⟨_, if_pos hf⟩

namespace SystemRound

inductive Denies (w : Watch) (x : SystemRound) : Prop where
  | wait {f : Fault} (ha : w.Asks x.round) (hp : x.poll = .error f) (hf : f.isDenied = true) :
      Denies w x
  | receive {f : Fault} (ha : w.Asks x.round) (hp : x.poll = .ok true) (hr : x.receive = .error f)
      (hf : f.isDenied = true) : Denies w x

variable {w : Watch} {x : SystemRound}

theorem Denies.exists_decides (h : x.Denies w) :
    ∃ text, w.Decides x.round (.error (.permission text)) := by
  cases h with
  | @wait f ha hp hf =>
      have hr : x.round.ready = .error f :=
        (congrArg Socket.readable hp).trans (Socket.readable_of_isDenied hf)
      obtain ⟨text, he⟩ := Failure.ofFault_permission_iff.2 hf
      exact ⟨text, he ▸ Watch.Decides.waitFailed ha hr⟩
  | @receive f ha hp hr hf =>
      have hd : x.round.received = .error f :=
        (congrArg Socket.received hr).trans (Socket.received_of_isDenied hf)
      obtain ⟨text, he⟩ := Failure.ofFault_permission_iff.2 hf
      exact ⟨text, he ▸ Watch.Decides.receiveFailed ha (congrArg Socket.readable hp) hd⟩

theorem denies_of_decides {text : String} (h : w.Decides x.round (.error (.permission text))) :
    x.Denies w := by
  generalize hresult : Except.error (Failure.permission text) = result at h
  cases h with
  | waitFailed ha hf =>
      have hd := Failure.ofFault_permission_iff.1 ⟨text, (Except.error.inj hresult).symm⟩
      exact .wait ha (Socket.eq_error_of_readable hf) hd
  | receiveFailed ha hr hf =>
      have hd := Failure.ofFault_permission_iff.1 ⟨text, (Except.error.inj hresult).symm⟩
      exact .receive ha (Socket.eq_true_of_readable hr) (Socket.eq_error_of_received hf) hd
  | cancelled | expired | echoReply | timeExceeded | unreachable => cases hresult

end SystemRound

namespace Request

variable (r : Request) (k : Conditions)

/-- The system denies access to a socket that is ready: when the request is sent or in the round
that ends the wait. -/
inductive Denied : Prop where
  | send {mode : Icmp.Mode} {f : Fault} (h : k.Ready mode) (hs : k.send = some f)
      (hf : f.isDenied = true) : Denied
  | listen {mode : Icmp.Mode} {before after : List SystemRound} {last : SystemRound}
      (h : k.Ready mode) (hs : k.send = none)
      (hr : k.rounds r.version (r.packet k) = before ++ last :: after)
      (hb : ∀ x ∈ before, (r.watch k (r.socket k mode)).Idle x.round)
      (hl : last.Denies (r.watch k (r.socket k mode))) : Denied

inductive Refused : Prop where
  | create {f g : Fault} (hr : k.opening.raw = some f) (hf : f.isDenied = true)
      (hd : k.opening.datagram = some g) : Refused
  | nonblocking {mode : Icmp.Mode} {f : Fault} (hm : k.opening.Grants mode)
      (hn : k.opening.nonblocking = some f) (hf : f.isDenied = true) : Refused
  | denied (h : r.Denied k) : Refused

section Permission

variable {r k}

theorem Denied.ready (h : r.Denied k) : ∃ mode, k.Ready mode := by
  cases h with
  | send h => exact ⟨_, h⟩
  | listen h => exact ⟨_, h⟩

theorem refused_iff_of_refuses {e : Failure} (h : k.opening.Refuses e) :
    r.Refused k ↔ ∃ text, e = .permission text := by
  constructor
  · rintro (⟨hr, hf, hd⟩ | ⟨hm, _, _⟩ | hd)
    · cases h with
      | raw hr' hf' =>
          rw [hr'] at hr
          cases hr
          rw [hf'] at hf
          cases hf
      | datagram => exact ⟨_, rfl⟩
    · exact absurd hm (h.not_grants _)
    · obtain ⟨mode, hm⟩ := hd.ready
      exact absurd hm.grants (h.not_grants mode)
  · rintro ⟨text, rfl⟩
    generalize he : Failure.permission text = e at h
    cases h with
    | raw hr hf =>
        rw [Failure.ofFault_permission_iff.1 ⟨text, he.symm⟩] at hf
        cases hf
    | datagram hr hf hd => exact .create hr hf hd

theorem refused_iff_of_unready {mode : Icmp.Mode} (hm : k.opening.Grants mode) {f : Fault}
    (hn : k.opening.nonblocking = some f) : r.Refused k ↔ f.isDenied = true := by
  constructor
  · rintro (⟨hr, hf, hd⟩ | ⟨_, hn', hf⟩ | hd)
    · exact absurd hm ((Opening.Refuses.datagram hr hf hd).not_grants mode)
    · rw [hn] at hn'
      cases hn'
      exact hf
    · obtain ⟨mode, h⟩ := hd.ready
      rw [h.nonblocking] at hn
      cases hn
  · exact .nonblocking hm hn

theorem refused_iff_of_ready {mode : Icmp.Mode} (h : k.Ready mode) :
    r.Refused k ↔ r.Denied k := by
  constructor
  · rintro (⟨hr, hf, hd⟩ | ⟨_, hn, _⟩ | hd)
    · exact absurd h.grants ((Opening.Refuses.datagram hr hf hd).not_grants mode)
    · rw [h.nonblocking] at hn
      cases hn
    · exact hd
  · exact .denied

theorem denied_iff_of_unsent {mode : Icmp.Mode} (h : k.Ready mode) {f : Fault}
    (hs : k.send = some f) : r.Denied k ↔ f.isDenied = true := by
  constructor
  · rintro (⟨_, hs', hf⟩ | ⟨_, hs', _, _, _⟩)
    · rw [hs] at hs'
      cases hs'
      exact hf
    · rw [hs] at hs'
      cases hs'
  · exact .send h hs

theorem denied_iff_of_sent {mode : Icmp.Mode} (h : k.Ready mode) (hs : k.send = none) :
    r.Denied k ↔ ∃ text, (r.waited k mode).result = .error (.permission text) := by
  constructor
  · rintro (⟨_, hs', _⟩ | ⟨h', _, hr, hb, hl⟩)
    · rw [hs] at hs'
      cases hs'
    · cases h'.grants.unique h.grants
      obtain ⟨text, hd⟩ := hl.exists_decides
      exact ⟨text, r.result_waited k hr hb hd⟩
  · -- A wait that no round decides ends in a timeout, so a round did.
    rintro ⟨text, he⟩
    rcases SystemRound.idle_or_decides (r.watch k (r.socket k mode))
      (k.rounds r.version (r.packet k)) with hall | ⟨before, last, after, result, hr, hb, hd⟩
    · rw [r.result_waited_of_idle k hall] at he
      cases he
    · rw [r.result_waited k hr hb hd] at he
      subst he
      exact .listen h hs hr hb (SystemRound.denies_of_decides hd)

theorem Goes.permission_iff {calls : List Call} {result : Except Failure Binary64}
    (h : r.Goes k calls result) :
    (∃ text, result = .error (.permission text)) ↔ r.Refused k := by
  cases h with
  | unopened h => simp [refused_iff_of_refuses h]
  | unready hm hn =>
      rw [refused_iff_of_unready hm hn]
      simpa only [Except.error.injEq] using Failure.ofFault_permission_iff
  | unsent h hs =>
      rw [refused_iff_of_ready h, denied_iff_of_unsent h hs]
      simpa only [Except.error.injEq] using Failure.ofFault_permission_iff
  | sent h hs => rw [refused_iff_of_ready h, denied_iff_of_sent h hs]

end Permission

/-- The rules for the calls of a probe. Nothing but waits and receives is done twice, and what is
done comes in the order of the stages. The lookups are those of another socket, for an IPv6
destination. -/
structure Keeps (r : Request) (k : Conditions) (calls : List Call) : Prop where
  ordered : calls.Pairwise Call.Before
  once : ∀ stage, stage ≠ Call.listening → calls.countP (fun c => c.stage == stage) ≤ 1
  create_iff : ∀ version mode, .create version mode ∈ calls ↔ version = r.version ∧
    (mode = .raw ∨ mode = .datagram ∧ ∃ f, k.opening.raw = some f ∧ f.isDenied = true)
  nonblocking_iff : .setNonblocking ∈ calls ↔ ∃ mode, k.opening.Grants mode
  hops_iff : ∀ version hops, .setHops version hops ∈ calls ↔
    (r.hops = some hops ∧ version = r.version) ∧ ∃ mode, k.Ready mode
  lookup_iff : ∀ c, .lookup c ∈ calls ↔ (∃ mode, k.Ready mode) ∧ ∃ destination made found,
    r.destination.numeric = .v6 destination ∧ k.lookup.Finds destination made found ∧ c ∈ made
  send_iff : ∀ packet destination, .send packet destination ∈ calls ↔
    (packet = r.packet k ∧ destination = r.destination.numeric) ∧ ∃ mode, k.Ready mode
  localAddress_iff : .localAddress ∈ calls ↔ k.Ready .datagram ∧ k.send = none
  listens : ∀ c ∈ calls, c.stage = Call.listening → (∃ mode, k.Ready mode) ∧ k.send = none
  listening : ∀ mode, k.Ready mode → k.send = none → ∃ heard,
    (r.watch k (r.socket k mode)).Hears (k.rounds r.version (r.packet k)) heard ∧
      calls.filter (fun c => c.stage == Call.listening) = heard.flatMap (SystemRound.asks r.timeout)
  close_iff : .close ∈ calls ↔ ∃ mode, k.opening.Grants mode

theorem mem_seeking_iff {c : Call} : c ∈ r.seeking k ↔ ∃ destination made found call,
    r.destination.numeric = .v6 destination ∧ k.lookup.Finds destination made found ∧ call ∈ made ∧
      c = .lookup call := by
  unfold seeking
  cases r.destination.numeric with
  | v4 destination => simp
  | v6 destination =>
      have hfinds := k.lookup.finds destination
      simp only [List.mem_map, Numeric.v6.injEq]
      constructor
      · rintro ⟨call, hc, rfl⟩
        exact ⟨destination, _, _, call, rfl, hfinds, hc, rfl⟩
      · rintro ⟨_, made, found, call, rfl, h, hc, rfl⟩
        exact ⟨call, (h.unique hfinds).1 ▸ hc, rfl⟩

theorem not_mem_hearing {mode : Icmp.Mode} {c : Call} (h : c.stage ≠ Call.listening) :
    c ∉ r.hearing k mode := fun hc => h (r.stage_of_mem_hearing k hc)

theorem mem_limiting_iff {c : Call} :
    c ∈ r.limiting ↔ ∃ hops, r.hops = some hops ∧ c = .setHops r.version hops := by
  simp [limiting, eq_comm]

theorem mem_asking_iff {mode : Icmp.Mode} {c : Call} :
    c ∈ asking mode ↔ mode = .datagram ∧ c = .localAddress := by
  cases mode <;> simp [asking]

/-- Which calls a probe makes but for those by which it listens. -/
theorem Goes.mem_iff_of_stage {calls : List Call} {result : Except Failure Binary64}
    (h : r.Goes k calls result) {c : Call} (hc : c.stage ≠ Call.listening) : c ∈ calls ↔
      (c = .create r.version .raw ∨ (∃ f, k.opening.raw = some f ∧ f.isDenied = true) ∧
        c = .create r.version .datagram) ∨
      (c = .setNonblocking ∨ c = .close) ∧ (∃ mode, k.opening.Grants mode) ∨
      ((∃ hops, r.hops = some hops ∧ c = .setHops r.version hops) ∨ c ∈ r.seeking k ∨
        c = r.sending k) ∧ (∃ mode, k.Ready mode) ∨
      (k.Ready .datagram ∧ k.send = none) ∧ c = .localAddress := by
  have hn (mode : Icmp.Mode) : c ∉ r.hearing k mode := not_mem_hearing r k hc
  rw [h.mem_iff, Opening.mem_creations_iff, mem_limiting_iff]
  simp only [hn, or_false, mem_asking_iff]
  have hask : (∃ mode, k.Ready mode ∧ k.send = none ∧ mode = .datagram ∧ c = .localAddress) ↔
      (k.Ready .datagram ∧ k.send = none) ∧ c = .localAddress := by
    constructor
    · rintro ⟨mode, hr, hs, rfl, he⟩
      exact ⟨⟨hr, hs⟩, he⟩
    · rintro ⟨⟨hr, hs⟩, he⟩
      exact ⟨_, hr, hs, rfl, he⟩
  rw [hask]

theorem Goes.listens {calls : List Call} {result : Except Failure Binary64}
    (h : r.Goes k calls result) {c : Call} (hc : c ∈ calls) (hs : c.stage = Call.listening) :
    (∃ mode, k.Ready mode) ∧ k.send = none := by
  rw [h.mem_iff, Opening.mem_creations_iff, mem_limiting_iff] at hc
  rcases hc with (rfl | ⟨_, rfl⟩) | ⟨rfl | rfl, _⟩ | ⟨⟨hops, _, rfl⟩ | hc | rfl, _⟩ | ⟨mode, hr, hn, _⟩
  · cases hs
  · cases hs
  · cases hs
  · cases hs
  · cases hs
  · have hlt := (r.block_seeking k).lt_high c hc
    rw [hs] at hlt
    exact absurd hlt (by decide)
  · cases hs
  · exact ⟨⟨mode, hr⟩, hn⟩

theorem Goes.filter_listening {calls : List Call} {result : Except Failure Binary64}
    (h : r.Goes k calls result) {mode : Icmp.Mode} (hm : k.Ready mode) (hs : k.send = none) :
    calls.filter (fun c => c.stage == Call.listening) = r.hearing k mode := by
  have hcreations := r.block_creations k |>.filter_eq_nil (n := Call.listening) (.inr (by decide))
  have hlimiting := r.block_limiting.filter_eq_nil (n := Call.listening) (.inr (by decide))
  have hseeking := r.block_seeking k |>.filter_eq_nil (n := Call.listening) (.inr (by decide))
  have hasking := (block_asking mode).filter_eq_nil (n := Call.listening) (.inr (by decide))
  have hhearing : (r.hearing k mode).filter (fun c => c.stage == Call.listening) = r.hearing k mode :=
    List.filter_eq_self.2 fun c hc => beq_iff_eq.2 (r.stage_of_mem_hearing k hc)
  have hothers : Call.setNonblocking.stage ≠ Call.listening ∧
      (r.sending k).stage ≠ Call.listening ∧ Call.close.stage ≠ Call.listening := by
    simp [sending, Call.stage, Call.listening]
  cases h with
  | unopened h => exact absurd hm.grants (h.not_grants mode)
  | unready _ hn =>
      rw [hm.nonblocking] at hn
      cases hn
  | unsent _ hf =>
      rw [hs] at hf
      cases hf
  | sent hm' =>
      cases hm'.grants.unique hm.grants
      simp [List.filter_append, hcreations, hlimiting, hseeking, hasking, hhearing,
        hothers]

theorem Goes.keeps {calls : List Call} {result : Except Failure Binary64}
    (h : r.Goes k calls result) : r.Keeps k calls where
  ordered := h.ordered
  once := fun _ => Call.countP_stage_le h.ordered
  create_iff := by
    intro version mode
    rw [h.mem_iff_of_stage r k (by cases mode <;> simp [Call.stage, Call.listening])]
    simp only [Call.create.injEq, reduceCtorEq, sending, mem_seeking_iff, or_false, false_and,
      and_false, exists_false]
    tauto
  nonblocking_iff := by
    rw [h.mem_iff_of_stage r k (by decide)]
    simp [sending, mem_seeking_iff]
  hops_iff := by
    intro version hops
    rw [h.mem_iff_of_stage r k (by simp [Call.stage, Call.listening])]
    simp [sending, mem_seeking_iff]
  lookup_iff := by
    intro c
    rw [h.mem_iff_of_stage r k (by cases c <;> simp [Call.stage, Call.listening])]
    simp [sending, mem_seeking_iff, and_comm]
  send_iff := by
    intro packet destination
    rw [h.mem_iff_of_stage r k (by simp [Call.stage, Call.listening])]
    simp [sending, mem_seeking_iff]
  localAddress_iff := by
    rw [h.mem_iff_of_stage r k (by decide)]
    simp [sending, mem_seeking_iff]
  listens := fun _ => h.listens r k
  listening := by
    intro mode hm hs
    obtain ⟨heard, hheard, hcalls⟩ := r.exists_hearing_eq k mode
    exact ⟨heard, hheard, (h.filter_listening r k hm hs).trans hcalls⟩
  close_iff := by
    rw [h.mem_iff_of_stage r k (by decide)]
    simp [sending, mem_seeking_iff]

theorem length_packet : (r.packet k).length = 8 + r.packetSize.bytes := by
  rw [packet, Icmp.Request.length_packet]
  exact congrArg (8 + ·) (Nat.max_eq_left r.packetSize.least)

theorem checksum_packet : Icmp.checksum ((r.echo k).covered ++ r.packet k) = 0 := by
  apply Icmp.Request.checksum_packet
  have hc := (r.echo k).length_covered.1
  have hl := r.length_packet k
  have hm := r.packetSize.most
  rw [packet] at hl
  rw [List.length_append, hl]
  omega

theorem covered_echo {destination : V6} {made : List LookupCall} {found : Except Fault V6}
    (hd : r.destination.numeric = .v6 destination) (hf : k.lookup.Finds destination made found) :
    (r.echo k).covered = Icmp.pseudoHeader (found.toOption.getD .loopback) destination
      (8 + r.packetSize.bytes) := by
  have hv : (r.echo k).version = .v6 := by
    change r.destination.numeric.version = .v6
    rw [hd]
    rfl
  have hr : (r.echo k).route = some (found.toOption.getD .loopback, destination) := by
    have hfound := ((k.lookup.finds destination).unique hf).2
    change r.route k = _
    simp only [route, hd, Lookup.source, hfound]
  rw [(r.echo k).covered_eq hv hr]
  exact congrArg _ (r.length_packet k)

end Request

/-- Whatever the system answers, a probe keeps to the rules for its calls, and what it sends is an
echo request of the size asked for, with the sequence 0 and the right checksum; for an IPv6
destination this covers the address from which the system says that it sends, or the loopback
address. It ends for want of access exactly when the system denies it a socket of either kind, the
making ready, the sending or the wait or receive that ends it. -/
theorem probe_keeps_protocol (r : Request) (k : Conditions) :
    r.Keeps k (Step.calls (r.probe k).steps) ∧
    ((r.packet k).length = 8 + r.packetSize.bytes ∧
      (∃ sum, Icmp.Message.ofBytes? (r.packet k) = some ⟨(Icmp.Kind.of r.version).echoRequest, 0, sum,
        k.identifier, 0, (r.echo k).payload⟩) ∧
      Icmp.checksum ((r.echo k).covered ++ r.packet k) = 0 ∧
      ∀ destination made found, r.destination.numeric = .v6 destination →
        k.lookup.Finds destination made found → (r.echo k).covered =
          Icmp.pseudoHeader (found.toOption.getD .loopback) destination (8 + r.packetSize.bytes)) ∧
    ((∃ text, (r.probe k).result = .error (.permission text)) ↔ r.Refused k) := by
  have h := r.goes k
  exact ⟨h.keeps, ⟨r.length_packet k, ⟨_, (r.echo k).ofBytes?_packet⟩, r.checksum_packet k,
    fun _ _ _ => r.covered_echo k⟩, h.permission_iff⟩

def Request.beyond : Request :=
  { Request.nearby with
    destination := ⟨"2001:db8::1", .v6 ⟨0x2001, 0xdb8, 0, 0, 0, 0, 0, 1⟩⟩ }

def Conditions.routeless : Conditions :=
  { Conditions.answering (some (.number 1)) (some 5000) 0 with
    lookup := ⟨none, none, some (.number 101), .ok (.v6 .loopback)⟩ }

theorem probe_keeps_protocol_beyond :
    let calls := Step.calls (Request.beyond.probe .routeless).steps
    (Request.beyond.echo .routeless).covered =
      Icmp.pseudoHeader .loopback ⟨0x2001, 0xdb8, 0, 0, 0, 0, 0, 1⟩ 16 ∧
    .lookup .close ∈ calls ∧ .lookup .localAddress ∉ calls ∧ .localAddress ∈ calls ∧
    calls.filter (fun c => c.stage == Call.listening) =
      [.poll 50, .receive 4096, .poll 50, .receive 4096] := by
  intro calls
  obtain ⟨hkeeps, ⟨_, _, _, hcovered⟩, _⟩ := probe_keeps_protocol .beyond .routeless
  have hready : Conditions.routeless.Ready .datagram := ⟨.datagram rfl rfl rfl, rfl⟩
  have hfinds : Conditions.routeless.lookup.Finds ⟨0x2001, 0xdb8, 0, 0, 0, 0, 0, 1⟩ _ _ :=
    .unconnected rfl rfl rfl
  have hroute := hcovered _ _ _ rfl hfinds
  refine ⟨hroute, ?_, ?_, ?_, ?_⟩
  · exact (hkeeps.lookup_iff .close).2 ⟨⟨_, hready⟩, _, _, _, rfl, hfinds, by simp⟩
  · intro h
    obtain ⟨_, _, made, found, hd, hf, hc⟩ := (hkeeps.lookup_iff .localAddress).1 h
    cases hd
    rw [(hf.unique hfinds).1] at hc
    simp at hc
  · exact hkeeps.localAddress_iff.2 ⟨hready, rfl⟩
  · decide +kernel

end HostProbe.Ping
