import HostProbe.Icmp.Matcher
import HostProbe.Icmp.Request
import HostProbe.Proofs.Bytes

namespace HostProbe.Icmp

/-- An IPv4 header as a receiver sees it. Its first byte tells its length in words; all other bytes
are open. -/
structure Ipv4Header where
  words : Nat
  rest : List UInt8
  least : 5 ≤ words
  most : words ≤ 15
  full : rest.length + 1 = 4 * words

namespace Ipv4Header

def bytes (h : Ipv4Header) : List UInt8 := UInt8.ofNat (0x40 + h.words) :: h.rest

theorem length_bytes (h : Ipv4Header) : h.bytes.length = 4 * h.words := h.full

theorem first_toNat (h : Ipv4Header) : (UInt8.ofNat (0x40 + h.words)).toNat = 0x40 + h.words := by
  have hm := h.most
  have hs : 0x40 + h.words < 256 := by omega
  exact UInt8.toNat_ofNat_of_lt' hs

end Ipv4Header

/-- How a message of an IP version comes in under a layout: alone, or behind an IPv4 header where
the layout has one. -/
inductive Carriage : Version → Layout → Type where
  | alone (version : Version) (layout : Layout) : Carriage version layout
  | behind (header : Ipv4Header) : Carriage .v4 .ipv4Header

def Carriage.frame {version : Version} {layout : Layout} :
    Carriage version layout → List UInt8 → List UInt8
  | .alone _ _, message => message
  | .behind header, message => header.bytes ++ message

namespace Layout

theorem headerLength?_bytes (h : Ipv4Header) (message : List UInt8) :
    headerLength? (h.bytes ++ message) = some (4 * h.words) := by
  have hl := h.length_bytes
  have hw := h.least
  have hm := h.most
  rw [Ipv4Header.bytes, List.cons_append] at *
  rw [headerLength?, h.first_toNat, if_pos (by simp at hl ⊢; omega), if_neg (by omega)]
  congr 2
  omega

theorem headerLength?_of_nibble {first : UInt8} (h : first.toNat / 16 ≠ 4) (rest : List UInt8) :
    headerLength? (first :: rest) = some 0 := by
  rw [headerLength?, if_neg fun hc => h hc.2]

theorem offset?_eq_zero {first : UInt8} {rest : List UInt8} (h : first.toNat / 16 ≠ 4)
    (hl : 7 ≤ rest.length) (layout : Layout) : layout.offset? (first :: rest) = some 0 := by
  have hz : 0 + 8 ≤ (first :: rest).length := by simpa using hl
  cases layout with
  | bare => exact if_pos hz
  | ipv4Header => simp only [offset?, headerLength?_of_nibble h, Option.bind_eq_bind, Option.bind_some,
      if_pos hz]

theorem offset?_bytes (h : Ipv4Header) {message : List UInt8} (hl : 8 ≤ message.length) :
    Layout.ipv4Header.offset? (h.bytes ++ message) = some h.bytes.length := by
  have hz : 4 * h.words + 8 ≤ (h.bytes ++ message).length := by
    rw [List.length_append, h.length_bytes]
    omega
  simp only [offset?, headerLength?_bytes, Option.bind_eq_bind, Option.bind_some, if_pos hz,
    h.length_bytes]

end Layout

namespace Message

theorem ofBytes?_fields (kind code : UInt8) (sum identifier sequence : UInt16) (body : List UInt8) :
    ofBytes? (kind :: code :: (Bytes.bigEndian 2 sum.toNat ++ Bytes.bigEndian 2 identifier.toNat ++
      Bytes.bigEndian 2 sequence.toNat ++ body)) =
      some ⟨kind, code, sum, identifier, sequence, body⟩ := by
  change some (Message.mk kind code _ _ _ body) = _
  congr 2
  · exact Bytes.word_split sum
  · exact Bytes.word_split identifier
  · exact Bytes.word_split sequence

theorem exists_of_ofBytes? {bytes : List UInt8} {m : Message} (h : ofBytes? bytes = some m) :
    ∃ rest, bytes = m.kind :: rest ∧ 7 ≤ rest.length := by
  unfold ofBytes? at h
  split at h
  · cases h
    exact ⟨_, rfl, by simp⟩
  · cases h

/-- A message is read from its start, wherever the layout puts that. The first byte of a message
that comes alone must not look like that of an IPv4 header. -/
theorem ofFrame?_frame {version : Version} {layout : Layout} (c : Carriage version layout)
    {bytes : List UInt8} {m : Message} (h : ofBytes? bytes = some m) (hk : m.kind.toNat / 16 ≠ 4) :
    ofFrame? layout (c.frame bytes) = some m := by
  obtain ⟨rest, rfl, hl⟩ := exists_of_ofBytes? h
  cases c with
  | alone =>
      simp only [ofFrame?, Carriage.frame, Layout.offset?_eq_zero hk hl, Option.bind_eq_bind,
        Option.bind_some, List.drop_zero, h]
  | behind header =>
      have hm : 8 ≤ (m.kind :: rest).length := by simpa using hl
      simp only [ofFrame?, Carriage.frame, Layout.offset?_bytes header hm, Option.bind_eq_bind,
        Option.bind_some, List.drop_left, h]

end Message

namespace Request

/-- A request turned round by the host that it was sent to: of another type and with any two bytes
for a checksum. -/
def turned (r : Request) (c0 c1 : UInt8) : List UInt8 :=
  ((r.packet.set 0 (Kind.of r.version).echoReply).set 2 c0).set 3 c1

theorem ofBytes?_packet (r : Request) : Message.ofBytes? r.packet =
    some ⟨(Kind.of r.version).echoRequest, 0, checksum (r.covered ++ r.withChecksum 0),
      r.identifier, r.sequence, r.payload⟩ :=
  Message.ofBytes?_fields _ 0 _ _ _ _

theorem ofBytes?_turned (r : Request) (c0 c1 : UInt8) : Message.ofBytes? (r.turned c0 c1) =
    some ⟨(Kind.of r.version).echoReply, 0, Bytes.word c0 c1, r.identifier, r.sequence,
      r.payload⟩ := by
  change some (Message.mk _ 0 (Bytes.word c0 c1) _ _ r.payload) = _
  congr 2
  · exact Bytes.word_split r.identifier
  · exact Bytes.word_split r.sequence

theorem timestamp?_payload (r : Request) (m : Message) (h : m.body = r.payload) :
    m.timestamp? = some r.timestamp := by
  have ht : r.payload.take 8 = Bytes.bigEndian 8 r.timestamp.bits.toNat :=
    List.take_left' (Bytes.length_bigEndian 8 _)
  have hn : Bytes.number (Bytes.bigEndian 8 r.timestamp.bits.toNat) = r.timestamp.bits.toNat :=
    Bytes.number_bigEndian_of_lt r.timestamp.bits.toNat_lt
  rw [Message.timestamp?, h, if_pos (by simp [payload, Bytes.length_bigEndian]), ht, hn,
    UInt64.ofNat_toNat]

end Request

end HostProbe.Icmp
