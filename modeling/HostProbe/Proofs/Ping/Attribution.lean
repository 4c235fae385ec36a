import HostProbe.Proofs.Icmp.Checksum
import HostProbe.Proofs.Icmp.Prefix
import HostProbe.Proofs.Ping.Neighbours

namespace HostProbe.Icmp

/-- An IP header as it is quoted. Of an IPv6 header nothing is read. -/
inductive QuotedHeader : Version → Type where
  | v4 (header : Ipv4Header) : QuotedHeader .v4
  | v6 (bytes : List UInt8) (full : bytes.length = 40) : QuotedHeader .v6

namespace QuotedHeader

variable {version : Version}

def bytes : QuotedHeader version → List UInt8
  | .v4 header => header.bytes
  | .v6 bytes _ => bytes

theorem quotes (header : QuotedHeader version) {quoted : List UInt8} (h : 8 ≤ quoted.length) :
    Quotes version (header.bytes ++ quoted) quoted := by
  cases header with
  | v4 header => exact .v4 header h
  | v6 _ full => exact .v6 full h

theorem quotedHeader?_bytes (header : QuotedHeader version) (quoted : List UInt8) :
    Message.quotedHeader? version (header.bytes ++ quoted) = some header.bytes.length := by
  cases header with
  | v4 header => exact Message.quotedHeader?_bytes header quoted
  | v6 _ full => exact congrArg some full.symm

end QuotedHeader

inductive Loss where
  | timeExceeded
  | unreachable
deriving DecidableEq

def Loss.kind : Loss → Version → UInt8
  | .timeExceeded, version => (Kind.of version).timeExceeded
  | .unreachable, version => (Kind.of version).unreachable

structure ErrorHeader where
  loss : Loss
  code : UInt8
  rest : List UInt8
  full : rest.length = 6

namespace ErrorHeader

variable (e : ErrorHeader)

def bytes (version : Version) : List UInt8 := e.loss.kind version :: e.code :: e.rest

def verdict : Verdict :=
  match e.loss with
  | .timeExceeded => .timeExceeded
  | .unreachable => .unreachable e.code

theorem exists_ofBytes?_append (version : Version) (body : List UInt8) :
    ∃ message, Message.ofBytes? (e.bytes version ++ body) = some message ∧
      message.kind = e.loss.kind version ∧ message.code = e.code ∧ message.body = body := by
  obtain ⟨loss, code, rest, full⟩ := e
  match rest, full with
  | [_, _, _, _, _, _], _ => exact ⟨_, rfl, rfl, rfl, rfl⟩

end ErrorHeader

theorem Kind.unreachable_ne (version : Version) :
    (Kind.of version).unreachable ≠ (Kind.of version).timeExceeded := by
  cases version <;> decide

theorem Loss.nibble_kind (loss : Loss) (version : Version) :
    (loss.kind version).toNat / 16 ≠ 4 := by
  cases loss <;> cases version <;> decide

theorem Loss.kind_eq_or (loss : Loss) (version : Version) :
    loss.kind version = (Kind.of version).timeExceeded ∨
      loss.kind version = (Kind.of version).unreachable := by
  cases loss with
  | timeExceeded => exact .inl rfl
  | unreachable => exact .inr rfl

namespace Matcher

variable {m : Matcher} {message : Message}

theorem blame_eq {e : ErrorHeader} (hk : message.kind = e.loss.kind m.version)
    (hc : message.code = e.code) : m.blame message = e.verdict := by
  obtain ⟨loss, code, rest, full⟩ := e
  rw [blame, hk, hc]
  cases loss with
  | timeExceeded => exact if_pos rfl
  | unreachable => exact if_neg (Kind.unreachable_ne m.version)

theorem concerns_of_short {header : QuotedHeader m.version} {quoted : List UInt8}
    (hb : message.body = header.bytes ++ quoted) (h : Message.ofBytes? quoted = none) :
    m.concerns message = true := by
  have hq : message.quotedEcho? m.version = none := by
    simp only [Message.quotedEcho?, hb, header.quotedHeader?_bytes, Option.bind_eq_bind,
      Option.bind_some, List.drop_left, h, Option.bind_none]
  rw [concerns, hq]

theorem concerns_take_iff {header : QuotedHeader m.version} {r : Request} (hv : r.version = m.version)
    {k : Nat} (hb : message.body = header.bytes ++ r.packet.take k) :
    m.concerns message = true ↔
      k < 8 ∨ r.sequence = m.sequence ∧ r.identifier ∈ m.identifiers := by
  rcases Nat.lt_or_ge k 8 with h | h
  · have hl : (r.packet.take k).length < 8 := Nat.lt_of_le_of_lt (List.length_take_le k r.packet) h
    exact iff_of_true (concerns_of_short hb (Message.ofBytes?_eq_none hl)) (.inl h)
  · have hl : 8 ≤ (r.packet.take k).length := by
      rw [List.length_take, r.length_packet]
      omega
    have hp := (Message.ofBytes?_take_eq h r.packet).trans
      (congrArg (Option.map (Message.cut (k - 8))) r.ofBytes?_packet)
    have hq : Quotes m.version message.body (r.packet.take k) := hb ▸ header.quotes hl
    rw [concerns_eq hq hp, isOurs_iff, hv]
    simp only [Message.cut, true_imp_iff, Nat.not_lt.2 h, false_or]
    exact and_comm

end Matcher

/-- An error about the start of an echo request, whichever headers surround it, is an answer to the
matchers that wait for this request and says nothing to the others. When less than the header of the
request came back, it is an answer to all. -/
theorem quoted_request_attributed (m : Matcher) (carriage : Carriage m.version m.layout)
    (e : ErrorHeader) (header : QuotedHeader m.version) (r : Request) (hv : r.version = m.version)
    (k : Nat) :
    m.classify (carriage.frame (e.bytes m.version ++ (header.bytes ++ r.packet.take k))) =
      if k < 8 ∨ r.sequence = m.sequence ∧ (r.identifier = m.identifier ∨
          m.alternate = some r.identifier)
        then e.verdict else .unrelated := by
  obtain ⟨message, hm, hkind, hcode, hbody⟩ :=
    e.exists_ofBytes?_append m.version (header.bytes ++ r.packet.take k)
  have hframe := Message.ofFrame?_frame carriage hm (by rw [hkind]; exact e.loss.nibble_kind _)
  rw [Matcher.classify_error hframe (by rw [hkind]; exact e.loss.kind_eq_or _),
    Matcher.blame_eq hkind hcode]
  simp only [Matcher.concerns_take_iff hv hbody, Matcher.identifiers, List.mem_cons,
    Option.mem_toList]

def Request.probe : Request := ⟨.v4, 42, 0, 56, ⟨0x41d954fc40200000⟩, none⟩

def ErrorHeader.hostUnreachable : ErrorHeader := ⟨.unreachable, 1, List.replicate 6 0, rfl⟩

def Ipv4Header.withOptions : Ipv4Header := ⟨6, List.replicate 23 0, by decide, by decide, rfl⟩

def hostUnreachable (k : Nat) : List UInt8 :=
  Ipv4Header.withOptions.bytes ++ (ErrorHeader.hostUnreachable.bytes .v4 ++
    (Ipv4Header.plain.bytes ++ Request.probe.packet.take k))

theorem quoted_request_attributed_probe :
    (Matcher.of .v4 .ipv4Header 42 0).classify (hostUnreachable 8) = .unreachable 1 ∧
    (Matcher.of .v4 .ipv4Header 43 0).classify (hostUnreachable 8) = .unrelated ∧
    (Matcher.of .v4 .ipv4Header 43 0).classify (hostUnreachable 7) = .unreachable 1 := by
  have h (identifier : UInt16) := quoted_request_attributed (.of .v4 .ipv4Header identifier 0)
    (.behind .withOptions) .hostUnreachable (.v4 .plain) .probe rfl
  refine ⟨?_, ?_, ?_⟩
  · exact (h 42 8).trans (if_pos (by decide))
  · exact (h 43 8).trans (if_neg (by decide))
  · exact (h 43 7).trans (if_pos (by decide))

end HostProbe.Icmp
