import HostProbe.Proofs.Ping.Quotation
import HostProbe.Proofs.Ping.Success

namespace HostProbe.Icmp

/-- Identifier and sequence of the request that a message is about: a reply carries its own, an
error quotes them. -/
def Message.subject? (m : Message) (version : Version) : Option (UInt16 × UInt16) :=
  if m.kind = (Kind.of version).echoReply then some (m.identifier, m.sequence)
  else m.quotedEcho? version

namespace Matcher

variable {m m' : Matcher} {frame : List UInt8} {message : Message}

def identifiers (m : Matcher) : List UInt16 := m.identifier :: m.alternate.toList

/-- Two matchers get the same frames and accept no identifier and sequence together. -/
structure Apart (m m' : Matcher) : Prop where
  version : m.version = m'.version
  layout : m.layout = m'.layout
  accepts : ∀ identifier sequence, m.isOurs identifier sequence = true →
    m'.isOurs identifier sequence = false

theorem Apart.symm (h : m.Apart m') : m'.Apart m := by
  refine ⟨h.version.symm, h.layout.symm, fun identifier sequence ho => ?_⟩
  rw [Bool.eq_false_iff]
  intro ho'
  rw [h.accepts identifier sequence ho'] at ho
  cases ho

theorem isOurs_iff {identifier sequence : UInt16} : m.isOurs identifier sequence = true ↔
    identifier ∈ m.identifiers ∧ sequence = m.sequence := by
  rw [isOurs, identifiers, Bool.and_eq_true, Bool.or_eq_true, beq_iff_eq, beq_iff_eq, beq_iff_eq,
    List.mem_cons, Option.mem_toList, eq_comm (a := some identifier), and_comm]

theorem apart_iff (hv : m.version = m'.version) (hl : m.layout = m'.layout) :
    m.Apart m' ↔ m.sequence ≠ m'.sequence ∨ m.identifiers.Disjoint m'.identifiers := by
  constructor
  · intro h
    by_contra hn
    obtain ⟨hs, hd⟩ := not_or.1 hn
    refine hd fun identifier hm hm' => ?_
    have ho := h.accepts identifier m.sequence (isOurs_iff.2 ⟨hm, rfl⟩)
    rw [isOurs_iff.2 ⟨hm', not_not.1 hs⟩] at ho
    cases ho
  · refine fun h => ⟨hv, hl, fun identifier sequence ho => Bool.eq_false_iff.2 fun ho' => ?_⟩
    obtain ⟨hm, hs⟩ := isOurs_iff.1 ho
    obtain ⟨hm', hs'⟩ := isOurs_iff.1 ho'
    rcases h with hne | hd
    · exact hne (hs.symm.trans hs')
    · exact hd hm hm'

theorem exists_of_echoReply {sent : Binary64} (h : m.classify frame = .echoReply sent) :
    ∃ message, Message.ofFrame? m.layout frame = some message ∧
      message.kind = (Kind.of m.version).echoReply := by
  cases hm : Message.ofFrame? m.layout frame with
  | none =>
      rw [classify, hm] at h
      cases h
  | some message =>
      refine ⟨message, rfl, ?_⟩
      by_contra hk
      rw [classify, hm] at h
      simp only [judge, if_neg hk] at h
      split at h
      · split at h <;> cases h
      · split at h
        · split at h <;> cases h
        · cases h

theorem isOurs_of_subject? (hm : Message.ofFrame? m.layout frame = some message)
    {identifier sequence : UInt16} (hs : message.subject? m.version = some (identifier, sequence))
    (h : m.classify frame ≠ .unrelated) : m.isOurs identifier sequence = true := by
  by_contra ho
  apply h
  by_cases hr : message.kind = (Kind.of m.version).echoReply
  · rw [Message.subject?, if_pos hr] at hs
    cases hs
    rw [classify, hm]
    dsimp only
    rw [m.judge_reply message hr, judgeReply, if_neg ho]
  rw [Message.subject?, if_neg hr] at hs
  have hc : ¬ m.concerns message = true := by
    rw [concerns, hs]
    exact ho
  by_cases hk : message.kind = (Kind.of m.version).timeExceeded ∨
      message.kind = (Kind.of m.version).unreachable
  · rw [classify_error hm hk, if_neg hc]
  · obtain ⟨ht, hu⟩ := not_or.1 hk
    rw [classify, hm]
    simp only [judge, if_neg hr, if_neg ht, if_neg hu]

theorem Apart.unrelated_or (h : m.Apart m') (hm : Message.ofFrame? m.layout frame = some message)
    {subject : UInt16 × UInt16} (hs : message.subject? m.version = some subject) :
    m.classify frame = .unrelated ∨ m'.classify frame = .unrelated := by
  by_contra hn
  obtain ⟨hu, hu'⟩ := not_or.1 hn
  have ho := h.accepts _ _ (isOurs_of_subject? hm hs hu)
  rw [isOurs_of_subject? (h.layout ▸ hm) (h.version ▸ hs) hu'] at ho
  cases ho

theorem Apart.unrelated_of_echoReply (h : m.Apart m') {sent : Binary64}
    (hr : m.classify frame = .echoReply sent) : m'.classify frame = .unrelated := by
  obtain ⟨message, hm, hk⟩ := exists_of_echoReply hr
  refine (h.unrelated_or hm (if_pos hk)).resolve_left fun hu => ?_
  rw [hr] at hu
  cases hu

end Matcher

end HostProbe.Icmp

namespace HostProbe

theorem Traced.result_andThen_congr {κ ε α β : Type} {t : Traced κ ε α} {f g : α → Traced κ ε β}
    (h : ∀ a, t.result = .ok a → (f a).result = (g a).result) :
    (t.andThen f).result = (t.andThen g).result := by
  unfold andThen
  split
  · next a ha => exact h a ha
  · rfl

namespace Ping

theorem Watch.Thins.refl (w : Watch) (rounds : List Round) : w.Thins rounds rounds := by
  induction rounds with
  | nil => exact .nil
  | cons r rounds ih => exact .keep r ih

theorem Watch.Idle.result_await {w : Watch} {x : Round} (h : w.Idle x) (before after : List Round) :
    (w.await (before ++ x :: after)).result = (w.await (before ++ after)).result := by
  have ht : w.Thins (before ++ x :: after) (before ++ after) := by
    induction before with
    | nil => exact .drop h (.refl w after)
    | cons y before ih => exact .keep y ih
  exact (ht.result_eq .empty).symm

namespace Request

variable {r r' : Request} {k k' : Conditions}

theorem matcher_of_raw : r.matcher k (r.socket k .raw) =
    .of r.version (.of k.opening.platform .raw r.version) k.identifier 0 := rfl

/-- Raw sockets of one version deliver datagrams in one layout, whatever the system. -/
theorem apart_of_raw (hv : r.version = r'.version) (hi : k.identifier ≠ k'.identifier) :
    (r.matcher k (r.socket k .raw)).Apart (r'.matcher k' (r'.socket k' .raw)) := by
  rw [matcher_of_raw, matcher_of_raw]
  refine (Icmp.Matcher.apart_iff hv ?_).2 (.inr ?_)
  · change Icmp.Layout.of _ _ _ = Icmp.Layout.of _ _ _
    rw [hv]
    cases r'.version <;> rfl
  · intro identifier h h'
    exact hi ((List.mem_singleton.1 h).symm.trans (List.mem_singleton.1 h'))

theorem result_probe_congr {rounds : Version → List UInt8 → List SystemRound}
    (h : ∀ s, (Socket.ofOpening k.opening r.version).result = .ok s →
      (r.listen k s).result = (r.listen { k with rounds } s).result) :
    (r.probe k).result = (r.probe { k with rounds }).result :=
  Traced.result_andThen_congr fun s hs => Traced.result_andThen_congr fun _ _ => h s hs

theorem mode_of_raw (hr : k.opening.raw = none) {s : Socket}
    (h : (Socket.ofOpening k.opening r.version).result = .ok s) : s = r.socket k .raw := by
  have hc : (Socket.create k.opening r.version).result = .ok .raw := by rw [Socket.create, hr]
  rw [Socket.ofOpening, Traced.result_andThen hc, Socket.prepare] at h
  split at h
  · cases h
    rfl
  · cases h

structure Gets (r : Request) (x : SystemRound) (bytes : List UInt8) : Prop where
  cancelled : x.cancelled = false
  elapsed : x.elapsed < r.timeout.nanos
  poll : x.poll = .ok true
  receive : ∃ sender, x.receive = .ok ⟨bytes, sender⟩

theorem Gets.idle {x : SystemRound} {bytes : List UInt8} (h : r.Gets x bytes) {s : Socket}
    (hv : (r.matcher k s).classify (bytes.take Watch.room) = .unrelated) :
    (r.watch k s).Idle x.round := by
  obtain ⟨sender, hx⟩ := h.receive
  exact .unrelated (d := ⟨bytes, sender⟩) ⟨⟨h.cancelled, h.elapsed⟩,
    congrArg Socket.readable h.poll, congrArg Socket.received hx, hv⟩

theorem result_listen_of_idle {s : Socket} {x : SystemRound} {before after : List SystemRound}
    (hr : k.rounds r.version (r.packet k) = before ++ x :: after)
    (hx : (r.watch k s).Idle x.round) : (r.listen k s).result =
      (r.listen { k with rounds := fun _ _ => before ++ after } s).result := by
  change ((r.watch k s).await _).result = ((r.watch k s).await _).result
  rw [hr, List.map_append, List.map_cons, List.map_append]
  exact hx.result_await _ _

end Request

/-- A frame answers at most one of two matchers that accept no echo message together: a reply says
nothing to the other, nor does an error to both when it can be read what it quotes. Pings over raw
sockets under different identifiers have such matchers, so that a reply to the one is to the other
as if it had not come. -/
theorem no_crosstalk :
    (∀ (m m' : Icmp.Matcher), m.Apart m' → ∀ frame,
      (∀ sent, m.classify frame = .echoReply sent → m'.classify frame = .unrelated) ∧
      (∀ sent, m'.classify frame = .echoReply sent → m.classify frame = .unrelated) ∧
      ∀ message, Icmp.Message.ofFrame? m.layout frame = some message →
        (message.kind = (Icmp.Kind.of m.version).timeExceeded ∨
          message.kind = (Icmp.Kind.of m.version).unreachable) →
        (message.quotedEcho? m.version).isSome →
        m.classify frame = .unrelated ∨ m'.classify frame = .unrelated) ∧
    ∀ (r r' : Request) (k k' : Conditions), r.version = r'.version →
      k.identifier ≠ k'.identifier → k'.opening.raw = none →
      ∀ bytes sent, (r.matcher k (r.socket k .raw)).classify (bytes.take Watch.room) =
        .echoReply sent →
      ∀ x, r'.Gets x bytes → ∀ before after,
        k'.rounds r'.version (r'.packet k') = before ++ x :: after →
        r'.ping k' = r'.ping { k' with rounds := fun _ _ => before ++ after } := by
  constructor
  · intro m m' h frame
    refine ⟨fun sent => h.unrelated_of_echoReply, fun sent => h.symm.unrelated_of_echoReply, ?_⟩
    intro message hm hk hq
    obtain ⟨subject, hs⟩ := Option.isSome_iff_exists.1 hq
    exact h.unrelated_or hm ((if_neg (Icmp.Kind.ne_echoReply_of_error hk)).trans hs)
  · intro r r' k k' hv hi hraw bytes sent hanswer x hx before after hrounds
    have hforeign := (Request.apart_of_raw hv hi).unrelated_of_echoReply hanswer
    have hresult : (r'.probe k').result =
        (r'.probe { k' with rounds := fun _ _ => before ++ after }).result :=
      Request.result_probe_congr fun s hs => by
        rw [Request.mode_of_raw hraw hs]
        exact Request.result_listen_of_idle hrounds (hx.idle hforeign)
    rw [Request.ping, Request.ping, hresult]

def Request.nearbyReply : List UInt8 :=
  (Request.nearby.echo (.answering none none 15)).turned 0 0

def Conditions.overhearing : Conditions :=
  { Conditions.answering none none 15 with
    identifier := 7
    rounds := fun _ _ => [⟨false, 0, .ok true, .ok ⟨Request.nearbyReply, none⟩, .zero⟩] }

theorem no_crosstalk_nearby :
    let m := Icmp.Matcher.of .v4 .ipv4Header 0x1d0d 0
    let m' := (Icmp.Matcher.of .v4 .ipv4Header 7 0).alsoAccept 9
    let late := Icmp.expiry [8, 0, 0, 0, 0x1d, 0x0d, 0, 0]
    m.classify Request.nearbyReply = .echoReply Rehearsal.Script.clock ∧
    m'.classify Request.nearbyReply = .unrelated ∧
    m.classify late = .timeExceeded ∧ m'.classify late = .unrelated ∧
    Request.nearby.ping .overhearing = .error (.timeout Request.nearby.timeout.seconds) := by
  intro m m' late
  have hdisjoint : m.identifiers.Disjoint m'.identifiers := by
    intro identifier hm hm'
    cases List.mem_singleton.1 hm
    exact absurd hm' (by decide)
  have hiff : m.Apart m' ↔ _ := Icmp.Matcher.apart_iff rfl rfl
  have hapart : m.Apart m' := hiff.2 (.inr hdisjoint)
  have hreply : m.classify Request.nearbyReply = .echoReply Rehearsal.Script.clock := by
    decide +kernel
  have hlate : m.classify late = .timeExceeded := by decide
  have hlate' : m.classify late = .unrelated ∨ m'.classify late = .unrelated :=
    (no_crosstalk.1 m m' hapart late).2.2 _ rfl (.inl rfl) rfl
  have hping := no_crosstalk.2 .nearby .nearby (.answering none none 15) .overhearing rfl
    (by decide) rfl Request.nearbyReply _ hreply _ ⟨rfl, by decide +kernel, rfl, none, rfl⟩ [] [] rfl
  refine ⟨hreply, (no_crosstalk.1 m m' hapart _).1 _ hreply, hlate, ?_, ?_⟩
  · exact hlate'.resolve_left fun hu => Icmp.Verdict.noConfusion (hlate.symm.trans hu)
  · rw [hping]
    rfl

end Ping

end HostProbe
