import HostProbe.Proofs.Icmp.Wire
import HostProbe.Proofs.Ping.Watch

namespace HostProbe.Icmp

/-- The body of an error message quotes a packet in full: its IP header and at least the eight bytes
after it, with which the quoted message starts. -/
inductive Quotes : Version → List UInt8 → List UInt8 → Prop where
  | v4 (header : Ipv4Header) {quoted : List UInt8} (h : 8 ≤ quoted.length) :
      Quotes .v4 (header.bytes ++ quoted) quoted
  | v6 {header quoted : List UInt8} (hh : header.length = 40) (h : 8 ≤ quoted.length) :
      Quotes .v6 (header ++ quoted) quoted

namespace Message

theorem exists_ofBytes? {bytes : List UInt8} (h : 8 ≤ bytes.length) :
    ∃ message, ofBytes? bytes = some message ∧ bytes.head? = some message.kind := by
  match bytes, h with
  | _ :: _ :: _ :: _ :: _ :: _ :: _ :: _ :: _, _ => exact ⟨_, rfl, rfl⟩

theorem quotedHeader?_bytes (header : Ipv4Header) (quoted : List UInt8) :
    quotedHeader? .v4 (header.bytes ++ quoted) = some header.bytes.length := by
  have hleast := header.least
  have hmost := header.most
  have hn : (0x40 + header.words) / 16 = 4 := by omega
  have hl : (0x40 + header.words) % 16 * 4 = 4 * header.words := by omega
  rw [header.length_bytes, Ipv4Header.bytes, List.cons_append]
  simp only [quotedHeader?, header.first_toNat]
  rw [if_pos hn, hl]

theorem quotedHeader?_of_quotes {version : Version} {body quoted : List UInt8}
    (h : Quotes version body quoted) :
    ∃ start, quotedHeader? version body = some start ∧ body.drop start = quoted := by
  cases h with
  | v4 header => exact ⟨_, quotedHeader?_bytes header quoted, List.drop_left⟩
  | v6 hh => exact ⟨40, rfl, hh ▸ List.drop_left⟩

theorem quotedEcho?_of_quotes {version : Version} {m packet : Message} {quoted : List UInt8}
    (h : Quotes version m.body quoted) (hp : ofBytes? quoted = some packet) :
    m.quotedEcho? version = if packet.kind = (Kind.of version).echoRequest
      then some (packet.identifier, packet.sequence) else none := by
  obtain ⟨start, hs, hd⟩ := quotedHeader?_of_quotes h
  simp only [quotedEcho?, hs, hd, hp, Option.bind_eq_bind, Option.bind_some]

end Message

theorem Kind.ne_echoReply_of_error {version : Version} {kind : UInt8}
    (h : kind = (Kind.of version).timeExceeded ∨ kind = (Kind.of version).unreachable) :
    kind ≠ (Kind.of version).echoReply := by
  rcases h with rfl | rfl
  · cases version <;> decide
  · cases version <;> decide

theorem Quotes.length_ge {version : Version} {body quoted : List UInt8}
    (h : Quotes version body quoted) : 8 ≤ quoted.length := by
  cases h with
  | v4 _ h => exact h
  | v6 _ h => exact h

namespace Matcher

variable {m : Matcher} {frame : List UInt8} {message : Message}

def blame (m : Matcher) (message : Message) : Verdict :=
  if message.kind = (Kind.of m.version).timeExceeded then .timeExceeded
  else .unreachable message.code

theorem blame_ne_unrelated (m : Matcher) (message : Message) : m.blame message ≠ .unrelated := by
  unfold blame
  split <;> exact Verdict.noConfusion

theorem classify_error (hm : Message.ofFrame? m.layout frame = some message)
    (hk : message.kind = (Kind.of m.version).timeExceeded ∨
      message.kind = (Kind.of m.version).unreachable) :
    m.classify frame = if m.concerns message then m.blame message else .unrelated := by
  rw [classify, hm]
  dsimp only
  unfold judge blame
  dsimp only
  rw [if_neg (Kind.ne_echoReply_of_error hk)]
  by_cases ht : message.kind = (Kind.of m.version).timeExceeded
  · rw [if_pos ht, if_pos ht]
  · rw [if_neg ht, if_pos (hk.resolve_left ht), if_neg ht]

theorem concerns_eq {packet : Message} {quoted : List UInt8}
    (h : Quotes m.version message.body quoted) (hp : Message.ofBytes? quoted = some packet) :
    m.concerns message = true ↔ (packet.kind = (Kind.of m.version).echoRequest →
      m.isOurs packet.identifier packet.sequence = true) := by
  rw [concerns, Message.quotedEcho?_of_quotes h hp]
  by_cases he : packet.kind = (Kind.of m.version).echoRequest
  · rw [if_pos he]
    exact ⟨fun ho _ => ho, fun ho => ho he⟩
  · rw [if_neg he]
    exact ⟨fun _ hk => absurd hk he, fun _ => rfl⟩

end Matcher

/-- An error message that quotes a packet in full says nothing to a matcher only if that packet is
an echo request of somebody else. Where it is no echo request, the message counts as an answer to
the matcher's own request, and a wait that receives it in time fails with it. -/
theorem error_unrelated_iff (m : Matcher) {frame quoted : List UInt8} {message : Message}
    (hm : Message.ofFrame? m.layout frame = some message)
    (hk : message.kind = (Kind.of m.version).timeExceeded ∨
      message.kind = (Kind.of m.version).unreachable)
    (hq : Quotes m.version message.body quoted) :
    ∃ packet, Message.ofBytes? quoted = some packet ∧ quoted.head? = some packet.kind ∧
      (m.classify frame = .unrelated ↔ packet.kind = (Kind.of m.version).echoRequest ∧
        m.isOurs packet.identifier packet.sequence = false) ∧
      (packet.kind ≠ (Kind.of m.version).echoRequest → m.classify frame = m.blame message ∧
        ∀ (w : Ping.Watch) (r : Ping.Round) (d : Ping.Datagram), w.matcher = m → w.Asks r →
          r.ready = .ok true → r.received = .ok (some d) → d.bytes.take Ping.Watch.room = frame →
          ∃ e, w.Decides r (.error e)) := by
  obtain ⟨packet, hp, hhead⟩ := Message.exists_ofBytes? hq.length_ge
  have hc := Matcher.concerns_eq hq hp
  have hframe := Matcher.classify_error hm hk
  refine ⟨packet, hp, hhead, ?_, ?_⟩
  · rw [hframe]
    by_cases ho : m.concerns message = true
    · rw [if_pos ho]
      refine ⟨fun h => absurd h (m.blame_ne_unrelated message), ?_⟩
      rintro ⟨he, hf⟩
      rw [hc.1 ho he] at hf
      cases hf
    · rw [if_neg ho]
      rw [hc, Classical.not_imp] at ho
      exact ⟨fun _ => ⟨ho.1, Bool.eq_false_iff.2 ho.2⟩, fun _ => rfl⟩
  · intro he
    have hblame : m.classify frame = m.blame message := by
      rw [hframe, if_pos (hc.2 fun h => absurd h he)]
    refine ⟨hblame, ?_⟩
    rintro w r d rfl ha hready hd rfl
    unfold Matcher.blame at hblame
    split at hblame
    · exact ⟨_, .timeExceeded ⟨ha, hready, hd, hblame⟩⟩
    · exact ⟨_, .unreachable ⟨ha, hready, hd, hblame⟩⟩

def Ipv4Header.plain : Ipv4Header := ⟨5, List.replicate 19 0, by decide, by decide, rfl⟩

def segment : List UInt8 := [0x1f, 0x90, 0, 80, 0, 0, 0, 1]

def expiry (quoted : List UInt8) : List UInt8 :=
  Ipv4Header.plain.bytes ++ [11, 0, 0, 0, 0, 0, 0, 0] ++ Ipv4Header.plain.bytes ++ quoted

theorem ofFrame?_expiry : Message.ofFrame? .ipv4Header (expiry segment) =
    some ⟨11, 0, 0, 0, 0, Ipv4Header.plain.bytes ++ segment⟩ := by decide

theorem error_unrelated_iff_segment :
    (Matcher.of .v4 .ipv4Header 42 0).classify (expiry segment) = .timeExceeded ∧
    ∃ e, Ping.Watch.Decides { Ping.Watch.loopback with matcher := .of .v4 .ipv4Header 42 0 }
      { Ping.Watch.stray with received := .ok (some ⟨expiry segment, none⟩) } (.error e) := by
  obtain ⟨packet, hp, _, _, hother⟩ := error_unrelated_iff (.of .v4 .ipv4Header 42 0)
    ofFrame?_expiry (.inl rfl) (.v4 .plain (by decide))
  cases hp
  obtain ⟨hblame, hends⟩ := hother (by decide)
  exact ⟨hblame, hends _ _ _ rfl ⟨rfl, by decide +kernel⟩ rfl rfl rfl⟩

/-- Not every error message about other traffic is passed over. -/
theorem not_forall_error_unrelated : ¬ ∀ (m : Matcher) (frame quoted : List UInt8)
    (message : Message), Message.ofFrame? m.layout frame = some message →
      message.kind = (Kind.of m.version).timeExceeded ∨
        message.kind = (Kind.of m.version).unreachable →
      Quotes m.version message.body quoted →
      quoted.head? ≠ some (Kind.of m.version).echoRequest → m.classify frame = .unrelated := by
  intro h
  have hs := h (.of .v4 .ipv4Header 42 0) (expiry segment) segment _ ofFrame?_expiry (.inl rfl)
    (.v4 .plain (by decide)) (by decide)
  revert hs
  decide

end HostProbe.Icmp
